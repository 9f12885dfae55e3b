import GuestWatch.Backend

/-! # The life of a backend

Whatever is asked of a backend, and in whatever order, its console is closed or open with a reader.
Only a start that succeeds opens it, with a reader that has read nothing yet, and only a stop closes
it. What a start finds depends on the guest and its configuration alone, and one that fails leaves
everything as it was.
-/
namespace GuestWatch

/-- What can be asked of a backend. Each start meets the surroundings of its own time. -/
inductive Request
  | start (env : Environment)
  | read (wait : Nat)
  | stop

/-- What a backend answers. A read also says how long it took. -/
inductive Response
  | started (answer : Except Fault Unit)
  | read (answer : Reading) (took : Nat)
  | stopped (answer : Except Fault Unit)

namespace Backend

def serve (b : Backend) : Request → Response × Backend
  | .start env => (.started (b.start env).1, (b.start env).2)
  | .read wait => (.read (b.read wait).1 (b.read wait).2.1, (b.read wait).2.2)
  | .stop => (.stopped b.stop.1, b.stop.2)

/-- Serves requests one after another. -/
def serveAll (b : Backend) : List Request → List Response × Backend
  | [] => ([], b)
  | request :: rest =>
    let (response, b) := b.serve request
    let (responses, b) := b.serveAll rest
    (response :: responses, b)

/-- The stream that a start finds in its surroundings. -/
def connect (c : Config) (env : Environment) : Guest → Except Fault Stream
  | .emulated => (Emulator.launch env c.emulator).map (·.console)
  | .serial device =>
    ((SerialLine.ofDevice (.ofText device) c.serial).connect env).map (·.2)

end Backend

/-! ## The machine of two states -/

inductive Console
  | closed
  | opened (r : LineReader)

namespace Console

/-- The faults that a stop can report. -/
def IsStopFault (f : Fault) : Prop := ∃ reason, f = .stopFailed .emulator reason

/-- All that can happen to a console at a request. `connect` is what a start finds. -/
inductive Moves (connect : Environment → Except Fault Stream) :
    Console → Request → Response → Console → Prop
  | opens {c : Console} {env : Environment} {s : Stream} (found : connect env = .ok s) :
    Moves connect c (.start env) (.started (.ok ())) (.opened (.ofStream s))
  | refuses {c : Console} {env : Environment} {f : Fault} (found : connect env = .error f) :
    Moves connect c (.start env) (.started (.error f)) c
  | reads {r r' : LineReader} {wait took : Nat} {answer : Reading}
    (next : r.nextLine wait = (answer, took, r')) :
    Moves connect (.opened r) (.read wait) (.read answer took) (.opened r')
  | unread {wait : Nat} :
    Moves connect .closed (.read wait) (.read (.error .streamClosed) 0) .closed
  | closes {r : LineReader} {answer : Except Fault Unit}
    (faults : ∀ f, answer = .error f → IsStopFault f) :
    Moves connect (.opened r) .stop (.stopped answer) .closed
  | unstopped : Moves connect .closed .stop (.stopped (.ok ())) .closed

/-- A console that goes from one state to another while it serves requests. -/
inductive Passes (connect : Environment → Except Fault Stream) :
    Console → List Request → List Response → Console → Prop
  | done (c : Console) : Passes connect c [] [] c
  | step {c c' c'' : Console} {request : Request} {response : Response}
    {requests : List Request} {responses : List Response}
    (move : Moves connect c request response c')
    (rest : Passes connect c' requests responses c'') :
    Passes connect c (request :: requests) (response :: responses) c''

end Console

namespace Backend

/-- The console of a backend. -/
def console (b : Backend) : Console :=
  match b.reader? with
  | none => .closed
  | some r => .opened r

@[simp] theorem console_eq_closed {b : Backend} : b.console = .closed ↔ b.reader? = none := by
  cases h : b.reader? <;> simp [console, h]

@[simp] theorem console_eq_opened {b : Backend} {r : LineReader} :
    b.console = .opened r ↔ b.reader? = some r := by
  cases h : b.reader? <;> simp [console, h]

/-- What holds of the backend of a guest whatever has been asked of it. An emulator has a process
exactly when it has a reader. -/
inductive Sound (c : Config) : Guest → Backend → Prop
  | emulator {g : Emulator} (config : g.config = c.emulator)
    (together : g.child.isSome = g.reader.isSome) : Sound c .emulated (.emulator g)
  | serialLine {device : String} {g : SerialLine} (place : g.device = .ofText device)
    (rate : g.rate = c.serial.baudRate) : Sound c (.serial device) (.serialLine g)

theorem Sound.ofGuest (c : Config) (guest : Guest) : Sound c guest (ofGuest c guest) := by
  cases guest with
  | emulated => exact .emulator rfl rfl
  | serial device => exact .serialLine rfl rfl

variable {c : Config} {guest : Guest} {b b' : Backend} {env : Environment} {f : Fault}

theorem Sound.connect_serialLine {device : String} {g : SerialLine}
    (place : g.device = .ofText device) (rate : g.rate = c.serial.baudRate) (env : Environment) :
    g.connect env = (SerialLine.ofDevice (.ofText device) c.serial).connect env := by
  simp only [SerialLine.connect, SerialLine.ofDevice, place, rate]
  rfl

/-- A start finds what the guest's configuration leads to, and opens the console with that. -/
theorem Sound.start_cases (sound : Sound c guest b) (env : Environment) :
    (∃ f, connect c env guest = .error f ∧ b.start env = (.error f, b)) ∨
    ∃ s, connect c env guest = .ok s ∧ (b.start env).1 = .ok () ∧
      (b.start env).2.reader? = some (.ofStream s) ∧ Sound c guest (b.start env).2 := by
  cases sound with
  | @emulator g config together =>
    cases hl : Emulator.launch env c.emulator with
    | error f => exact .inl ⟨f, by simp [connect, hl, Except.map],
        by simp [start, Emulator.start, config, hl]⟩
    | ok spawned =>
      refine .inr ⟨spawned.console, by simp [connect, hl, Except.map], ?_⟩
      simp only [start, Emulator.start, config, hl, true_and]
      exact ⟨rfl, .emulator rfl rfl⟩
  | @serialLine device g place rate =>
    have same := connect_serialLine place rate env
    cases hc : (SerialLine.ofDevice (.ofText device) c.serial).connect env with
    | error f => exact .inl ⟨f, by simp [connect, hc, Except.map],
        by simp [start, SerialLine.start, same, hc]⟩
    | ok found =>
      refine .inr ⟨found.2, by simp [connect, hc, Except.map], ?_⟩
      simp only [start, SerialLine.start, same, hc, true_and]
      exact ⟨rfl, .serialLine place rate⟩

theorem read_closed (h : b.reader? = none) (wait : Nat) :
    b.read wait = (.error .streamClosed, 0, b) := by
  cases b with
  | emulator g =>
    have hr : g.reader = none := h
    simp [read, Emulator.read, hr]
  | serialLine g =>
    have hr : g.reader = none := h
    simp [read, SerialLine.read, hr]

/-- A read of an open console is a read of its reader. -/
theorem read_opened {r : LineReader} (h : b.reader? = some r) (wait : Nat) :
    (b.read wait).1 = (r.nextLine wait).1 ∧ (b.read wait).2.1 = (r.nextLine wait).2.1 ∧
      (b.read wait).2.2.reader? = some (r.nextLine wait).2.2 := by
  cases b with
  | emulator g =>
    have hr : g.reader = some r := h
    simp only [read, Emulator.read, hr, true_and]
    rfl
  | serialLine g =>
    have hr : g.reader = some r := h
    simp only [read, SerialLine.read, hr, true_and]
    rfl

theorem Sound.read (sound : Sound c guest b) (wait : Nat) :
    Sound c guest (b.read wait).2.2 := by
  cases hr : b.reader? with
  | none => exact (read_closed hr wait).symm ▸ sound
  | some r =>
    cases sound with
    | @emulator g config together =>
      have reader : g.reader = some r := hr
      simp only [Backend.read, Emulator.read, reader]
      exact .emulator config (by simpa [reader] using together)
    | @serialLine device g place rate =>
      have reader : g.reader = some r := hr
      simp only [Backend.read, SerialLine.read, reader]
      exact .serialLine place rate

/-- A stop closes the console, whatever it reports. -/
theorem Sound.stop_closes (sound : Sound c guest b) :
    b.stop.2.reader? = none ∧ Sound c guest b.stop.2 ∧
      ∀ f, b.stop.1 = .error f → Console.IsStopFault f := by
  cases sound with
  | @emulator g config together =>
    cases hc : g.child with
    | none =>
      simp only [stop, Emulator.stop, hc]
      exact ⟨rfl, .emulator config rfl, by simp⟩
    | some child =>
      simp only [stop, Emulator.stop, hc]
      refine ⟨rfl, .emulator config rfl, fun f hf => ?_⟩
      cases ht : (child.terminate g.config.stopGraceMs.toNat).answer with
      | ok _ =>
        rw [ht] at hf
        cases hf
      | error reason =>
        rw [ht] at hf
        exact ⟨reason, (Except.error.inj hf).symm⟩
  | serialLine place rate => exact ⟨rfl, .serialLine place rate, by simp [stop, SerialLine.stop]⟩

theorem Sound.stop_closed (sound : Sound c guest b) (h : b.reader? = none) :
    b.stop = (.ok (), b) := by
  cases sound with
  | @emulator g config together =>
    have hr : g.reader = none := h
    have hc : g.child = none := by simpa [hr] using together
    obtain ⟨config, child, reader⟩ := g
    cases hr
    cases hc
    rfl
  | @serialLine device g place rate =>
    have hr : g.reader = none := h
    obtain ⟨device, rate, reader, speed⟩ := g
    cases hr
    rfl

/-- One request moves the console, and leaves the backend sound. -/
theorem Sound.serve (sound : Sound c guest b) (request : Request) :
    Sound c guest (b.serve request).2 ∧
      Console.Moves (connect c · guest) b.console request (b.serve request).1
        (b.serve request).2.console := by
  cases request with
  | start env =>
    obtain ⟨f, found, hs⟩ | ⟨s, found, hs, reader, sound'⟩ := sound.start_cases env
    · simp only [Backend.serve, hs]
      exact ⟨sound, .refuses found⟩
    · simp only [Backend.serve, hs, console_eq_opened.mpr reader]
      exact ⟨sound', .opens found⟩
  | read wait =>
    cases hr : b.reader? with
    | none =>
      simp only [Backend.serve, read_closed hr, console_eq_closed.mpr hr]
      exact ⟨sound, .unread⟩
    | some r =>
      obtain ⟨answer, took, reader⟩ := read_opened hr wait
      simp only [Backend.serve, answer, took, console_eq_opened.mpr hr,
        console_eq_opened.mpr reader]
      exact ⟨sound.read wait, .reads rfl⟩
  | stop =>
    obtain ⟨closed, sound', faults⟩ := sound.stop_closes
    refine ⟨sound', ?_⟩
    simp only [Backend.serve, console_eq_closed.mpr closed]
    cases hr : b.reader? with
    | none =>
      rw [console_eq_closed.mpr hr, sound.stop_closed hr]
      exact .unstopped
    | some r =>
      rw [console_eq_opened.mpr hr]
      exact .closes faults

theorem Sound.serveAll (sound : Sound c guest b) (requests : List Request) :
    Sound c guest (b.serveAll requests).2 ∧
      Console.Passes (connect c · guest) b.console requests (b.serveAll requests).1
        (b.serveAll requests).2.console := by
  induction requests generalizing b with
  | nil => exact ⟨sound, .done _⟩
  | cons request requests ih =>
    obtain ⟨sound', move⟩ := sound.serve request
    obtain ⟨sound'', rest⟩ := ih sound'
    exact ⟨sound'', .step move rest⟩

/-- A backend that has served any requests in any order has gone through states of its console, and
is closed or open now. A closed one is not changed by reads, which say that it is closed, nor by
stops, which succeed. A stop closes it whatever it reports. A start that fails leaves it as it is;
one that succeeds opens it with a reader of the stream it finds that has read nothing. An emulator
has a process exactly when it has a reader. -/
theorem serveAll_lifecycle (c : Config) (guest : Guest) (requests : List Request) :
    ∃ responses b, (ofGuest c guest).serveAll requests = (responses, b) ∧
      Console.Passes (connect c · guest) .closed requests responses b.console ∧
      (b.reader? = none → b.stop = (.ok (), b) ∧
        ∀ wait, b.read wait = (.error .streamClosed, 0, b)) ∧
      (∀ r wait, b.reader? = some r → (b.read wait).1 = (r.nextLine wait).1 ∧
        (b.read wait).2.2.reader? = some (r.nextLine wait).2.2) ∧
      b.stop.2.reader? = none ∧
      (∀ env f b', b.start env = (.error f, b') → b' = b) ∧
      (∀ env b', b.start env = (.ok (), b') → ∃ s, connect c env guest = .ok s ∧
        b'.reader? = some ⟨s, [], false⟩) ∧
      ∀ g, b = .emulator g → g.child.isSome = g.reader.isSome := by
  obtain ⟨sound, passes⟩ := (Sound.ofGuest c guest).serveAll requests
  rcases h : (ofGuest c guest).serveAll requests with ⟨responses, b⟩
  rw [h] at sound passes
  have fresh : (ofGuest c guest).console = .closed := by cases guest <;> rfl
  rw [fresh] at passes
  refine ⟨responses, b, rfl, passes, fun closed => ⟨sound.stop_closed closed, read_closed closed⟩,
    fun r wait opened => ?_, sound.stop_closes.1, fun env f b' hs => ?_, fun env b' hs => ?_, ?_⟩
  · obtain ⟨answer, -, reader⟩ := read_opened opened wait
    exact ⟨answer, reader⟩
  · obtain ⟨f', -, failed⟩ | ⟨s, -, ok, -⟩ := sound.start_cases env
    · exact (Prod.mk.inj (hs.symm.trans failed)).2
    · rw [hs] at ok
      cases ok
  · obtain ⟨f, -, failed⟩ | ⟨s, found, -, reader, -⟩ := sound.start_cases env
    · rw [failed] at hs
      cases hs
    · rw [hs] at reader
      exact ⟨s, found, reader⟩
  · rintro g rfl
    cases sound with
    | emulator config together => exact together

/-- Surroundings in which processes are started that cannot be waited for, and files are present or
not. -/
def unstoppable (present : Bool) : Environment where
  readText := fun _ => .ok ""
  isPresent := fun _ => present
  findProgram := fun name => some (.ofText name)
  spawn := fun _ _ =>
    .ok ⟨⟨none, 0, none, some "gone", false⟩, [.bytes [0x61, 0x0A, 0x62], .hang]⟩
  openLine := fun _ _ => .ok []

/-- An emulator that is started again in vain while it runs, and cannot be waited for when it is
stopped. -/
theorem serveAll_lifecycle_unstoppable :
    ∃ b : Backend,
      (ofGuest .default .emulated).serveAll [.start (unstoppable true), .read 10,
        .start (unstoppable false), .read 10, .stop] =
          ([.started (.ok ()), .read (.ok (some "a")) 0,
            .started (.error (.deviceNotFound Config.default.emulator.kernel)),
            .read (.ok none) 10, .stopped (.error (.stopFailed .emulator "gone"))], b) ∧
      b.read 10 = (.error .streamClosed, 0, b) ∧ b.stop = (.ok (), b) ∧
      ∃ s, (b.start (unstoppable true)).2.reader? = some ⟨s, [], false⟩ := by
  obtain ⟨responses, b, h, -, closed, -, -, -, opens, -⟩ :=
    serveAll_lifecycle .default .emulated [.start (unstoppable true), .read 10,
      .start (unstoppable false), .read 10, .stop]
  obtain ⟨rfl, rfl⟩ := Prod.mk.inj h
  obtain ⟨stopped, unread⟩ := closed rfl
  obtain ⟨s, -, reader⟩ := opens (unstoppable true) _ rfl
  exact ⟨_, rfl, unread 10, stopped, s, reader⟩

end Backend

end GuestWatch
