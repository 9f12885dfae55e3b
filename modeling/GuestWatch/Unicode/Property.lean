import GuestWatch.Unicode.Age
import GuestWatch.Unicode.Binary
import GuestWatch.Unicode.Script
import GuestWatch.Unicode.Segmentation

/-! # Properties by name

A property is asked for by one name (a yes-or-no property, a category or a script) or by a name
and a value. Names are compared without regard to case, spaces, hyphens, underscores and a leading
`is`.
-/
namespace GuestWatch.Unicode.Property

inductive Failure
  | noSuchProperty
  | noSuchValue
deriving DecidableEq, Repr

/-- A name reduced to what is compared. Reading `isc` as a lone `c` would lose a property of that
name, so that one keeps its letters. -/
def looseName (name : String) : String :=
  let kept := fun cs : List Char =>
    (cs.filter fun c => c.toNat < 0x80 && c != ' ' && c != '_' && c != '-').map Char.toLower
  match name.toList with
  | a :: b :: rest =>
    if a.toLower = 'i' ∧ b.toLower = 's' then
      let tail := kept rest
      if tail = ['c'] then "isc" else String.ofList tail
    else String.ofList (kept (a :: b :: rest))
  | short => String.ofList (kept short)

/-- Names of properties that are neither yes-or-no properties with a table nor derived ones. -/
def otherNames : List String := CharSet.tokens []
  ("age bc bidiclass blk block bmg bidimirroringglyph bpb bidipairedbracket bpt
    bidipairedbrackettype ccc canonicalcombiningclass ce compositionexclusion cf casefolding compex
    fullcompositionexclusion cwkcf changeswhennfkccasefolded dm decompositionmapping dt
    decompositiontype ea eastasianwidth equideo equivalentunifiedideograph expandsonnfc
    expandsonnfd expandsonnfkc expandsonnfkd xonfc xonfd xonfkc xonfkd fcnfkc fcnfkcclosure gc
    generalcategory gcb graphemeclusterbreak hst hangulsyllabletype incb indicconjunctbreak inpc
    indicpositionalcategory insc indicsyllabiccategory isc jsn jamoshortname jg joininggroup jt
    joiningtype kaccountingnumeric cjkaccountingnumeric kcompatibilityvariant
    cjkcompatibilityvariant kehcat kehdesc kehhg kehifao kehjsesh kehnomirror kehnorotate kiicore
    cjkiicore kirggsource cjkirggsource kirghsource cjkirghsource kirgjsource cjkirgjsource
    kirgkpsource cjkirgkpsource kirgksource cjkirgksource kirgmsource cjkirgmsource kirgssource
    cjkirgssource kirgtsource cjkirgtsource kirguksource cjkirguksource kirgusource cjkirgusource
    kirgvsource cjkirgvsource kothernumeric cjkothernumeric kprimarynumeric cjkprimarynumeric
    krsunicode cjkrsunicode unicoderadicalstroke urs lb linebreak lc lowercasemapping na name na1
    unicode1name namealias nfcqc nfcquickcheck nfdqc nfdquickcheck nfkccasefold nfkccf nfkcqc
    nfkcquickcheck nfkcscf nfkcsimplecasefold nfkdqc nfkdquickcheck nt numerictype nv numericvalue
    sb sentencebreak sc script scf simplecasefolding sfc scx scriptextensions slc
    simplelowercasemapping stc simpletitlecasemapping suc simpleuppercasemapping tc
    titlecasemapping uc uppercasemapping vo verticalorientation wb wordbreak ocomment").toList

/-- Whether a reduced name is that of some property. -/
def isName (name : String) : Bool := otherNames.contains name || (Binary.named? name).isSome

def ofOption (o : Option CharSet) (failure : Failure) : Except Failure CharSet :=
  match o with
  | some s => .ok s
  | none => .error failure

def ofCategory (name : String) : Except Failure CharSet :=
  match Category.named name with
  | .members s => .ok s
  | .noCharacters | .unknown => .error .noSuchValue

/-- The characters that one name stands for. The short names `cf`, `sc` and `lc` are categories,
although properties have them too. -/
def ofName (rawName : String) : Except Failure CharSet :=
  let name := looseName rawName
  if ¬ ["cf", "sc", "lc"].contains name ∧ isName name then
    ofOption (Binary.named? name) .noSuchProperty
  else match Category.named name with
    | .members s => .ok s
    | .noCharacters => .error .noSuchValue
    | .unknown =>
      if Script.isName name then ofOption (Script.assigned? name) .noSuchValue
      else .error .noSuchProperty

/-- The characters for which a property has a value. -/
def ofPair (rawProperty rawValue : String) : Except Failure CharSet :=
  let property := looseName rawProperty
  let value := looseName rawValue
  if ¬ isName property then .error .noSuchProperty
  else match property with
    | "gc" | "generalcategory" => ofCategory value
    | "sc" | "script" => ofOption (Script.assigned? value) .noSuchValue
    | "scx" | "scriptextensions" => ofOption (Script.extended? value) .noSuchValue
    | "age" => ofOption (Age.assignedBy? value) .noSuchValue
    | "gcb" | "graphemeclusterbreak" =>
      ofOption (Segmentation.valued? Segmentation.graphemeTable value) .noSuchValue
    | "wb" | "wordbreak" =>
      ofOption (Segmentation.valued? Segmentation.wordTable value) .noSuchValue
    | "sb" | "sentencebreak" =>
      ofOption (Segmentation.valued? Segmentation.sentenceTable value) .noSuchValue
    | _ => .error .noSuchValue

/-! ## Classes that patterns use by letter -/

def digits : CharSet := Category.ofShortNames ["nd"]

def spaces : CharSet := Binary.listed "whitespace"

def wordCharacters : CharSet :=
  .unions [Binary.alphabetic, Category.ofShortNames ["mn", "mc", "me", "nd", "pc"],
    Binary.listed "joincontrol"]

end GuestWatch.Unicode.Property
