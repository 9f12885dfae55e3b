import GuestWatch.Config.Reader
import GuestWatch.Proofs.Config.Schema

/-! # Configurations from documents

The texts that are read as a configuration are the documents whose value fits the schema, and the
configuration that is read is the one for which the value stands. Every other text is refused as a
bad configuration.
-/
namespace GuestWatch

open Json (Datum Tree Slot Layout)

namespace EmulatorConfig

def layout : Layout EmulatorConfig where
  slots := [
    .exactly "binary" .text (·.binary) (·.string "a string") id (fun v c => { c with binary := v })
      (by simp [Tree.string_eq_ok]) (fun _ _ => rfl),
    .exactly "machine" .text (·.machine) (·.string "a string") id
      (fun v c => { c with machine := v }) (by simp [Tree.string_eq_ok]) (fun _ _ => rfl),
    { name := "kernel"
      fits := fun d path => ∃ s, d = .text s ∧ .ofText s = path
      get := (·.kernel)
      read := (·.string "path string")
      value := .ofText
      set := fun v c => { c with kernel := v }
      reads := by simp [Tree.string_eq_ok]
      get_set := fun _ _ => rfl },
    .exactly "extra_args" .texts (·.extraArgs) (·.strings) id
      (fun v c => { c with extraArgs := v }) (by simp [Tree.strings_eq_ok]) (fun _ _ => rfl),
    .exactly "stop_grace_ms" .ofUInt64 (·.stopGraceMs) (·.natural Text.Decimal.max64 wanted64)
      .ofNat (fun v c => { c with stopGraceMs := v }) Tree.uint64_eq_ok (fun _ _ => rfl)]
  names_nodup := by decide
  get_set_ne := by simp [Slot.exactly, Json.Component.exactly]
  ext := by
    intro a b h
    cases a
    cases b
    simpa [Slot.exactly, Json.Component.exactly] using h

theorem ofTree_eq_ok {t : Tree} {c : EmulatorConfig} :
    ofTree t = .ok c ↔ ∃ d, t.datum? = some d ∧ Fits d c :=
  layout.record_eq_ok

theorem readable_of_fits {depth : Nat} {d : Datum} {c : EmulatorConfig} (h : Fits d c) :
    d.Readable (depth + 2) := by
  apply layout.readable_of_fits _ h
  intro k hk d v fits
  simp only [layout, List.mem_cons, List.not_mem_nil, or_false] at hk
  rcases hk with rfl | rfl | rfl | rfl | rfl
  · cases fits
    exact .text
  · cases fits
    exact .text
  · obtain ⟨s, rfl, -⟩ := fits
    exact .text
  · cases fits
    exact Datum.readable_texts
  · cases fits
    exact Datum.readable_ofUInt64

/-- A section that has been read has a kernel path that is text. -/
theorem exists_kernel_text {d : Datum} {c : EmulatorConfig} (h : Fits d c) :
    ∃ s, c.kernel = .ofText s := by
  obtain ⟨given, -, laid⟩ := h
  have kernel := laid ⟨"kernel", fun d path => ∃ s, d = .text s ∧ .ofText s = path, (·.kernel)⟩
    (by simp [components])
  unfold Json.Component.Laid at kernel
  split at kernel
  · obtain ⟨s, -, same⟩ := kernel
    exact ⟨s, same.symm⟩
  · exact ⟨_, kernel⟩

end EmulatorConfig

namespace SerialConfig

def layout : Layout SerialConfig where
  slots := [
    .exactly "baud_rate" .ofUInt32 (·.baudRate) (·.natural Text.Decimal.max32 wanted32) .ofNat
      (fun v c => { c with baudRate := v }) Tree.uint32_eq_ok (fun _ _ => rfl)]
  names_nodup := by decide
  get_set_ne := by simp
  ext := by
    intro a b h
    cases a
    cases b
    simpa [Slot.exactly, Json.Component.exactly] using h

theorem ofTree_eq_ok {t : Tree} {c : SerialConfig} :
    ofTree t = .ok c ↔ ∃ d, t.datum? = some d ∧ Fits d c :=
  layout.record_eq_ok

theorem readable_of_fits {depth : Nat} {d : Datum} {c : SerialConfig} (h : Fits d c) :
    d.Readable (depth + 1) := by
  apply layout.readable_of_fits _ h
  intro k hk d v fits
  simp only [layout, List.mem_cons, List.not_mem_nil, or_false] at hk
  subst hk
  cases fits
  exact Datum.readable_ofUInt32

end SerialConfig

namespace MarkerConfig

def layout : Layout MarkerConfig where
  slots := [
    .exactly "pass" .texts (·.pass) (·.strings) id (fun v c => { c with pass := v })
      (by simp [Tree.strings_eq_ok]) (fun _ _ => rfl),
    .exactly "fail" .texts (·.fail) (·.strings) id (fun v c => { c with fail := v })
      (by simp [Tree.strings_eq_ok]) (fun _ _ => rfl),
    .exactly "expect" .ofText? (·.expect) (·.optional (·.string "a string")) id
      (fun v c => { c with expect := v }) (by simp [Tree.optional_eq_ok]) (fun _ _ => rfl),
    .exactly "runner_protocol" .bool (·.runnerProtocol) (·.boolean) id
      (fun v c => { c with runnerProtocol := v }) (by simp [Tree.boolean_eq_ok])
      (fun _ _ => rfl)]
  names_nodup := by decide
  get_set_ne := by simp [Slot.exactly, Json.Component.exactly]
  ext := by
    intro a b h
    cases a
    cases b
    simpa [Slot.exactly, Json.Component.exactly] using h

theorem ofTree_eq_ok {t : Tree} {c : MarkerConfig} :
    ofTree t = .ok c ↔ ∃ d, t.datum? = some d ∧ Fits d c :=
  layout.record_eq_ok

theorem readable_of_fits {depth : Nat} {d : Datum} {c : MarkerConfig} (h : Fits d c) :
    d.Readable (depth + 2) := by
  apply layout.readable_of_fits _ h
  intro k hk d v fits
  simp only [layout, List.mem_cons, List.not_mem_nil, or_false] at hk
  rcases hk with rfl | rfl | rfl | rfl
  · cases fits
    exact Datum.readable_texts
  · cases fits
    exact Datum.readable_texts
  · cases fits
    exact Datum.readable_ofText?
  · cases fits
    exact .bool

end MarkerConfig

namespace Config

def layout : Layout Config where
  slots := [
    .exactly "timeout_secs" .ofUInt64 (·.timeoutSecs) (·.natural Text.Decimal.max64 wanted64)
      .ofNat (fun v c => { c with timeoutSecs := v }) Tree.uint64_eq_ok (fun _ _ => rfl),
    .exactly "line_timeout_ms" .ofUInt64 (·.lineTimeoutMs)
      (·.natural Text.Decimal.max64 wanted64) .ofNat (fun v c => { c with lineTimeoutMs := v })
      Tree.uint64_eq_ok (fun _ _ => rfl),
    { name := "qemu"
      fits := EmulatorConfig.Fits
      get := (·.emulator)
      read := EmulatorConfig.ofTree
      value := id
      set := fun v c => { c with emulator := v }
      reads := by simp [EmulatorConfig.ofTree_eq_ok]
      get_set := fun _ _ => rfl },
    { name := "serial"
      fits := SerialConfig.Fits
      get := (·.serial)
      read := SerialConfig.ofTree
      value := id
      set := fun v c => { c with serial := v }
      reads := by simp [SerialConfig.ofTree_eq_ok]
      get_set := fun _ _ => rfl },
    { name := "markers"
      fits := MarkerConfig.Fits
      get := (·.markers)
      read := MarkerConfig.ofTree
      value := id
      set := fun v c => { c with markers := v }
      reads := by simp [MarkerConfig.ofTree_eq_ok]
      get_set := fun _ _ => rfl }]
  names_nodup := by decide
  get_set_ne := by simp [Slot.exactly, Json.Component.exactly]
  ext := by
    intro a b h
    cases a
    cases b
    simpa [Slot.exactly, Json.Component.exactly] using h

theorem ofTree_eq_ok {t : Tree} {c : Config} :
    ofTree t = .ok c ↔ ∃ d, t.datum? = some d ∧ Fits d c :=
  layout.record_eq_ok

/-- No configuration is nested deeper than documents may be. -/
theorem readable_of_fits {d : Datum} {c : Config} (h : Fits d c) :
    d.Readable Json.Reader.maxDepth := by
  change d.Readable (126 + 1)
  apply layout.readable_of_fits _ h
  intro k hk d v fits
  simp only [layout, List.mem_cons, List.not_mem_nil, or_false] at hk
  rcases hk with rfl | rfl | rfl | rfl | rfl
  · cases fits
    exact Datum.readable_ofUInt64
  · cases fits
    exact Datum.readable_ofUInt64
  · exact EmulatorConfig.readable_of_fits fits
  · exact SerialConfig.readable_of_fits fits
  · exact MarkerConfig.readable_of_fits fits

/-- A configuration that has been read has a kernel path that is text. -/
theorem exists_kernel_text {d : Datum} {c : Config} (h : Fits d c) :
    ∃ s, c.emulator.kernel = .ofText s := by
  obtain ⟨given, -, laid⟩ := h
  have emulator := laid ⟨"qemu", EmulatorConfig.Fits, (·.emulator)⟩ (by simp [components])
  unfold Json.Component.Laid at emulator
  split at emulator
  · exact EmulatorConfig.exists_kernel_text emulator
  · exact ⟨_, congrArg (·.kernel) emulator⟩

theorem ofText_eq_ok {text : String} {c : Config} : ofText text = .ok c ↔
    ∃ d, Json.IsDocument text.toList d ∧ Fits d c := by
  have read : ofText text = .ok c ↔ ofTree (Json.Document.ofText text).tree = .ok c ∧
      (Json.Document.ofText text).ending = none := by
    rcases ht : ofTree (Json.Document.ofText text).tree with f | c'
    · simp [ofText, ht]
    · rcases he : (Json.Document.ofText text).ending with _ | f <;> simp [ofText, ht, he]
  rw [read, ofTree_eq_ok]
  constructor
  · rintro ⟨⟨d, hd, fits⟩, none⟩
    exact ⟨d, (Json.Document.isDocument_iff (readable_of_fits fits)).mpr ⟨hd, none⟩, fits⟩
  · rintro ⟨d, document, fits⟩
    obtain ⟨hd, none⟩ := (Json.Document.isDocument_iff (readable_of_fits fits)).mp document
    exact ⟨⟨d, hd, fits⟩, none⟩

theorem ofText_eq_error {text : String} {f : Fault} (h : ofText text = .error f) :
    ∃ fault, f = .invalidArgument (.badConfig fault) := by
  unfold ofText at h
  dsimp only at h
  split at h
  · next fault _ =>
    cases h
    exact ⟨fault, rfl⟩
  · split at h
    · next fault _ =>
      cases h
      exact ⟨fault, rfl⟩
    · cases h

/-- A text is read as a configuration exactly if it is one document and the value in it fits the
schema: every section gives some of its components by name or the first of them in order, and what
is not given is as in the default configuration. Every other text is a bad configuration. -/
theorem ofText_overlays_default (text : String) :
    (∀ c, ofText text = .ok c ↔ ∃ d, Json.IsDocument text.toList d ∧ Fits d c) ∧
    ((∃ d c, Json.IsDocument text.toList d ∧ Fits d c) ∨
      ∃ r, ofText text = .error (.invalidArgument r) ∧
        "bad config: ".toList <+: r.message.toList) := by
  refine ⟨fun c => ofText_eq_ok, ?_⟩
  cases h : ofText text with
  | ok c =>
    obtain ⟨d, document, fits⟩ := ofText_eq_ok.mp h
    exact .inl ⟨d, c, document, fits⟩
  | error f =>
    obtain ⟨fault, rfl⟩ := ofText_eq_error h
    have message : (Refusal.badConfig fault).message = "bad config: " ++ fault.message := rfl
    refine .inr ⟨.badConfig fault, rfl, fault.message.toList, ?_⟩
    rw [message, String.toList_append]

end Config

end GuestWatch
