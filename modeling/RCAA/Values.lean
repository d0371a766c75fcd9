import Mathlib
import RCAA.Library.DecimalText

/-! The interpreter values the services compute with: text, JSON scalars,
timestamps and unordered sets of text.

Unicode case folding and the host's time zone are parameters (`Platform`), so every
result holds for all of them. A timestamp counts microseconds; its arithmetic is
unbounded. The references a record keeps in its JSON column are scalars: a list or
an object there cannot be a member of the sets the matcher builds. -/

namespace RCAA

/-- What the interpreter and the host supply. -/
class Platform where
  strip : String → String
  lower : String → String
  upper : String → String
  /-- Offset of local time from UTC at an instant. -/
  localOffset : Int → Int
  fromisoformat : String → Option (Int × Option Int)

export Platform (strip lower upper)

/-! ## JSON scalars -/

/-- A float carries its shortest text and, when finite, its exact value. -/
inductive Scalar where
  | null
  | bool (b : Bool)
  | int (n : Int)
  | float (text : String) (value : Option Rat)
  | str (text : String)
deriving DecidableEq

namespace Scalar

/-- `str(value)`. -/
def text : Scalar → String
  | .null => "None"
  | .bool true => "True"
  | .bool false => "False"
  | .int n => toString n
  | .float text _ => text
  | .str text => text

def truthy : Scalar → Bool
  | .null => false
  | .bool b => b
  | .int n => n != 0
  | .float _ value => value != some 0
  | .str text => text != ""

def number : Scalar → Option Rat
  | .bool b => some (if b then 1 else 0)
  | .int n => some n
  | .float _ value => value
  | _ => none

/-- Equality of members of a set: numbers by value, so `1`, `1.0` and `true` are one. -/
def same (a b : Scalar) : Bool :=
  match a.number, b.number with
  | some x, some y => x == y
  | none, none => a == b
  | _, _ => false

def ofOption : Option String → Scalar
  | none => .null
  | some text => .str text

/-- A set display: of equal members the first is kept. -/
def set (values : List Scalar) : List Scalar :=
  values.foldl (fun kept value => if kept.any (same · value) then kept else kept ++ [value]) []

end Scalar

/-- A JSON object read by key. -/
abbrev RawData := List (String × Scalar)

namespace RawData

def get? (data : RawData) (key : String) : Option Scalar := (data.find? (fun entry => entry.1 == key)).map Prod.snd
def get (data : RawData) (key : String) : Scalar := (get? data key).getD .null
def getD (data : RawData) (key : String) (default : Scalar) : Scalar := (get? data key).getD default

end RawData

/-! ## Timestamps -/

/-- Microseconds on the wall clock since the epoch; a naive timestamp has no offset. -/
structure DateTime where
  wall : Int
  offset : Option Int := none
deriving DecidableEq

namespace DateTime

def instant (d : DateTime) : Int := d.wall - d.offset.getD 0

/-- `d.replace(tzinfo=None)`. -/
def dropZone (d : DateTime) : Int := d.wall

/-- `d.astimezone().replace(tzinfo=None)` for an aware timestamp, itself for a naive one. -/
def localNaive [Platform] (d : DateTime) : Int :=
  match d.offset with
  | none => d.wall
  | some offset => d.wall - offset + Platform.localOffset (d.wall - offset)

/-- Equality of timestamps: a naive and an aware one never are. -/
def moment (d : DateTime) : Bool × Int := (d.offset.isSome, d.instant)

def minute : Int := 60 * 1000000
def day : Int := 24 * 60 * minute

end DateTime

/-! ## Text of numbers and timestamps -/

/-- `f"{n:0{width}d}"` for a number that is not negative. -/
def padded (width n : Nat) : String :=
  String.ofList (List.replicate (width - (Decimal.digits n).length) '0' ++ Decimal.digits n)

theorem padded_injective (width : Nat) : Function.Injective (padded width) := by
  have value (n : Nat) : Nat.ofDigitChars 10 (padded width n).toList 0 = n := by
    rw [padded, String.toList_ofList, Nat.ofDigitChars_append, Nat.ofDigitChars_replicate_zero, Nat.mul_zero]
    exact Nat.ofDigitChars_ten_toDigits
  exact fun m n same => by rw [← value m, ← value n, same]

/-- Year, month and day of a day number of the proleptic Gregorian calendar. -/
def civil (days : Int) : Int × Int × Int :=
  let shifted := days + 719468
  let era := shifted / 146097
  let dayOfEra := shifted % 146097
  let yearOfEra := (dayOfEra - dayOfEra / 1460 + dayOfEra / 36524 - dayOfEra / 146096) / 365
  let dayOfYear := dayOfEra - (365 * yearOfEra + yearOfEra / 4 - yearOfEra / 100)
  let shiftedMonth := (5 * dayOfYear + 2) / 153
  let month := if shiftedMonth < 10 then shiftedMonth + 3 else shiftedMonth - 9
  let year := yearOfEra + era * 400
  (if month ≤ 2 then year + 1 else year, month, dayOfYear - (153 * shiftedMonth + 2) / 5 + 1)

def clockTime (micros : Int) : String :=
  let seconds := (micros / 1000000).toNat
  let fraction := (micros % 1000000).toNat
  padded 2 (seconds / 3600) ++ ":" ++ padded 2 (seconds / 60 % 60) ++ ":" ++ padded 2 (seconds % 60) ++
    if fraction = 0 then "" else "." ++ padded 6 fraction

def offsetText (offset : Int) : String :=
  let micros := (offset.natAbs : Int)
  let seconds := (micros / 1000000).toNat
  let fraction := (micros % 1000000).toNat
  (if offset < 0 then "-" else "+") ++ padded 2 (seconds / 3600) ++ ":" ++ padded 2 (seconds / 60 % 60) ++
    (if seconds % 60 = 0 ∧ fraction = 0 then "" else ":" ++ padded 2 (seconds % 60)) ++
    if fraction = 0 then "" else "." ++ padded 6 fraction

def DateTime.isoformat (d : DateTime) : String :=
  let (year, month, dayOfMonth) := civil (d.wall / DateTime.day)
  padded 4 year.toNat ++ "-" ++ padded 2 month.toNat ++ "-" ++ padded 2 dayOfMonth.toNat ++ "T" ++
    clockTime (d.wall % DateTime.day) ++
    match d.offset with
    | none => ""
    | some offset => offsetText offset

example : (⟨1704110400000000, some 0⟩ : DateTime).isoformat = "2024-01-01T12:00:00+00:00" := by decide

/-! ## Values of a record -/

/-- What a key of a record may hold: a JSON value, or a number or timestamp an
adapter computed. Only an object's scalar entries are kept apart; a list and
anything else carries the text it prints. -/
inductive Value where
  | scalar (value : Scalar)
  | decimal (value : Decimal)
  | timestamp (value : DateTime)
  | object (fields : RawData)
  | other (text : String) (truthy : Bool)
deriving DecidableEq

namespace Value

def null : Value := .scalar .null
def str (text : String) : Value := .scalar (.str text)
def ofOption (text : Option String) : Value := .scalar (.ofOption text)

def truthy : Value → Bool
  | .scalar value => value.truthy
  | .decimal value => !value.isZero
  | .timestamp _ => true
  | .object fields => !fields.isEmpty
  | .other _ truthy => truthy

/-- `a or b`. -/
def or (a b : Value) : Value := if a.truthy then a else b

/-- The entries of an object; nothing else has any. -/
def fields : Value → RawData
  | .object fields => fields
  | _ => []

end Value

/-- A record read by key. -/
abbrev Dict := List (String × Value)

namespace Dict

def get? (data : Dict) (key : String) : Option Value := (data.find? (fun entry => entry.1 == key)).map Prod.snd
def get (data : Dict) (key : String) : Value := (get? data key).getD .null
def getD (data : Dict) (key : String) (default : Value) : Value := (get? data key).getD default

/-- `data[key] = value`: a key that is there keeps its place. -/
def set (key : String) (value : Value) : Dict → Dict
  | [] => [(key, value)]
  | entry :: rest => if entry.1 = key then (key, value) :: rest else entry :: set key value rest

end Dict

/-! ## Sets of text -/

/-- The order in which a process happens to iterate its sets of text. -/
structure SetOrder where
  iter : List String → List String
  perm : ∀ refs, (iter refs).Perm refs

namespace SetOrder

@[simp] theorem mem_iter (order : SetOrder) (refs : List String) (ref : String) :
    ref ∈ order.iter refs ↔ ref ∈ refs := (order.perm refs).mem_iff

def insertion : SetOrder := ⟨id, fun _ => List.Perm.refl _⟩
def reversed : SetOrder := ⟨List.reverse, List.reverse_perm⟩

end SetOrder

/-! ## Normalized references -/

section Normalized
variable [Platform]

/-- `_normalize`: trimmed and lower-cased text, nothing for a null or blank value. -/
def normalize (value : Scalar) : Option String :=
  match value with
  | .null => none
  | value =>
    let text := strip value.text
    if text = "" then none else some (lower text)

/-- The set of the normalized values that are not blank. -/
def normalizedSet (values : List Scalar) : List String :=
  (((Scalar.set values).filterMap normalize).filter (· ≠ "")).dedup

end Normalized

namespace PlainText

/-- A host on UTC whose text is ASCII, for evaluation; it parses no timestamp. -/
scoped instance plainText : Platform where
  strip text := String.ofList ((text.toList.dropWhile Char.isWhitespace).reverse.dropWhile Char.isWhitespace).reverse
  lower text := String.ofList (text.toList.map Char.toLower)
  upper text := String.ofList (text.toList.map Char.toUpper)
  localOffset _ := 0
  fromisoformat _ := none

theorem dropWhile_rdropWhile {α : Type} (p : α → Bool) (items : List α) :
    ((items.dropWhile p).rdropWhile p).dropWhile p = (items.dropWhile p).rdropWhile p := by
  cases trimmed : (items.dropWhile p).rdropWhile p with
  | nil => rfl
  | cons item rest =>
    obtain ⟨tail, whole⟩ : (item :: rest) <+: items.dropWhile p := trimmed ▸ List.rdropWhile_prefix p (items.dropWhile p)
    have kept := List.dropWhile_eq_self_iff.mp (List.dropWhile_idempotent p items)
    rw [← whole] at kept
    exact List.dropWhile_cons_of_neg (kept (Nat.succ_pos _))

theorem strip_eq (text : String) :
    strip text = String.ofList ((text.toList.dropWhile Char.isWhitespace).rdropWhile Char.isWhitespace) := rfl

theorem strip_again (text : String) : strip (strip text) = strip text := by
  rw [strip_eq (strip text), strip_eq, String.toList_ofList, dropWhile_rdropWhile, List.rdropWhile_idempotent]

theorem lower_append (a b : String) : lower (a ++ b) = lower a ++ lower b := by
  apply String.toList_inj.mp
  simp only [lower, String.toList_append, String.toList_ofList, List.map_append]

end PlainText
end RCAA
