import RCAA.Library.Decimal

/-! Decimal texts: printing in scientific-notation style with the exponent kept,
and the numeric-string grammar that reads it back. Digits are the ASCII ones. The
sign of a zero is not kept. The reader expects a text without surrounding blanks. -/

namespace Decimal

inductive Parsed where
  | finite (value : Decimal)
  | special
  | invalid
deriving DecidableEq, Repr

/-! ## Printing -/

def digits (n : Nat) : List Char := Nat.toDigits 10 n

def signedDigits (n : Int) : List Char := (if n < 0 then '-' else '+') :: digits n.natAbs

/-- Coefficient digits `ds` placed for exponent `e`; plain notation when the
point falls at most six places left of the first digit. -/
def layout (ds : List Char) (e : Int) : List Char :=
  let left : Int := e + ds.length
  let dot : Int := if e ≤ 0 ∧ -6 < left then left else 1
  let body :=
    if dot ≤ 0 then '0' :: '.' :: (List.replicate (-dot).toNat '0' ++ ds)
    else if ds.length ≤ dot then ds ++ List.replicate (dot - ds.length).toNat '0'
    else ds.take dot.toNat ++ '.' :: ds.drop dot.toNat
  body ++ (if left = dot then [] else 'E' :: signedDigits (left - dot))

def str (d : Decimal) : String :=
  String.ofList ((if d.coeff < 0 then ['-'] else []) ++ layout (digits d.coeff.natAbs) d.exponent)

/-! ## Reading -/

def digitsOnly (cs : List Char) : Option Nat :=
  if cs ≠ [] ∧ cs.all Char.isDigit then some (Nat.ofDigitChars 10 cs 0) else none

def parseSigned : List Char → Option Int
  | '-' :: cs => (digitsOnly cs).map fun (n : Nat) => -(n : Int)
  | '+' :: cs => (digitsOnly cs).map fun (n : Nat) => (n : Int)
  | cs => (digitsOnly cs).map fun (n : Nat) => (n : Int)

def parseExponent : List Char → Option Int
  | [] => some 0
  | c :: cs => if c = 'e' ∨ c = 'E' then parseSigned cs else none

/-- The digits after a point, and what follows them. -/
def splitFraction : List Char → List Char × List Char
  | '.' :: cs => (cs.takeWhile Char.isDigit, cs.dropWhile Char.isDigit)
  | cs => ([], cs)

def parseUnsigned (cs : List Char) : Option Decimal :=
  let whole := cs.takeWhile Char.isDigit
  let (fraction, rest) := splitFraction (cs.dropWhile Char.isDigit)
  if whole ++ fraction = [] then none
  else (parseExponent rest).map fun e => ⟨Nat.ofDigitChars 10 (whole ++ fraction) 0, e - fraction.length⟩

def isSpecial (cs : List Char) : Bool :=
  let lower := cs.map Char.toLower
  lower = "inf".toList || lower = "infinity".toList ||
    ("nan".toList.isPrefixOf lower && (lower.drop 3).all Char.isDigit) ||
    ("snan".toList.isPrefixOf lower && (lower.drop 4).all Char.isDigit)

def parseBody (cs : List Char) : Parsed :=
  match parseUnsigned cs with
  | some d => .finite d
  | none => if isSpecial cs then .special else .invalid

/-- The numeric-string constructor: underscores are dropped, then a sign, then
digits with at most one point and an optional exponent. -/
def parse (text : String) : Parsed :=
  match text.toList.filter (· != '_') with
  | '-' :: cs => match parseBody cs with
    | .finite d => .finite d.neg
    | other => other
  | '+' :: cs => parseBody cs
  | cs => parseBody cs

/-! ## Reading back what was printed -/

theorem digits_isDigit (h : c ∈ digits n) : c.isDigit = true :=
  Nat.isDigit_of_mem_toDigits (by decide) (by decide) h

theorem takeWhile_digits {ds rest : List Char} (hd : ∀ c ∈ ds, c.isDigit = true)
    (stop : ∀ c ∈ rest.head?, c.isDigit = false) :
    (ds ++ rest).takeWhile Char.isDigit = ds ∧ (ds ++ rest).dropWhile Char.isDigit = rest := by
  induction ds with
  | nil =>
    cases rest with
    | nil => simp
    | cons c cs => simp [stop c (by simp)]
  | cons d ds ih =>
    obtain ⟨ht, hr⟩ := ih (fun c h => hd c (by simp [h]))
    have first := hd d (by simp)
    exact ⟨by simp [first, ht], by simp [first, hr]⟩

theorem digitsOnly_digits (n : Nat) : digitsOnly (digits n) = some n := by
  have all : (digits n).all Char.isDigit = true := List.all_eq_true.mpr fun c h => digits_isDigit h
  have value : Nat.ofDigitChars 10 (digits n) 0 = n := Nat.ofDigitChars_ten_toDigits
  have nonempty : digits n ≠ [] := Nat.toDigits_ne_nil
  simp only [digitsOnly, nonempty, ne_eq, not_false_eq_true, all, and_self, if_true, value]

theorem parseSigned_signedDigits (n : Int) : parseSigned (signedDigits n) = some n := by
  by_cases negative : n < 0
  · rw [signedDigits, if_pos negative]
    change (digitsOnly (digits n.natAbs)).map (fun (m : Nat) => -(m : Int)) = some n
    rw [digitsOnly_digits, Option.map_some, Option.some.injEq]
    omega
  · rw [signedDigits, if_neg negative]
    change (digitsOnly (digits n.natAbs)).map (fun (m : Nat) => (m : Int)) = some n
    rw [digitsOnly_digits, Option.map_some, Option.some.injEq]
    omega

/-- The optional exponent part that `layout` writes after the digits. -/
def exponentPart (shift : Int) : List Char := if shift = 0 then [] else 'E' :: signedDigits shift

theorem parseExponent_exponentPart (shift : Int) : parseExponent (exponentPart shift) = some shift := by
  unfold exponentPart
  split
  · simp [parseExponent, *]
  · simp [parseExponent, parseSigned_signedDigits]

theorem exponentPart_head (shift : Int) : ∀ c ∈ (exponentPart shift).head?, c.isDigit = false := by
  intro c h
  unfold exponentPart at h
  split at h
  · simp at h
  · simp only [List.head?_cons, Option.mem_def, Option.some.injEq] at h
    subst h
    rfl

theorem parseUnsigned_whole {whole : List Char} (hw : ∀ c ∈ whole, c.isDigit = true)
    (nonempty : whole ≠ []) (shift : Int) :
    parseUnsigned (whole ++ exponentPart shift) = some ⟨Nat.ofDigitChars 10 whole 0, shift⟩ := by
  obtain ⟨ht, hr⟩ := takeWhile_digits hw (exponentPart_head shift)
  have noPoint : splitFraction (exponentPart shift) = ([], exponentPart shift) := by
    unfold exponentPart
    split <;> rfl
  simp [parseUnsigned, ht, hr, noPoint, nonempty, parseExponent_exponentPart]

theorem parseUnsigned_fraction {whole fraction : List Char} (hw : ∀ c ∈ whole, c.isDigit = true)
    (hf : ∀ c ∈ fraction, c.isDigit = true) (nonempty : whole ≠ []) (shift : Int) :
    parseUnsigned (whole ++ '.' :: (fraction ++ exponentPart shift)) =
      some ⟨Nat.ofDigitChars 10 (whole ++ fraction) 0, shift - fraction.length⟩ := by
  have point : ∀ c ∈ ('.' :: (fraction ++ exponentPart shift)).head?, c.isDigit = false := by
    intro c h
    simp only [List.head?_cons, Option.mem_def, Option.some.injEq] at h
    subst h
    rfl
  obtain ⟨ht, hr⟩ := takeWhile_digits hw point
  obtain ⟨ft, fr⟩ := takeWhile_digits hf (exponentPart_head shift)
  simp [parseUnsigned, ht, hr, splitFraction, ft, fr, nonempty, parseExponent_exponentPart]

theorem ofDigitChars_zeros (k : Nat) (ds : List Char) :
    Nat.ofDigitChars 10 ('0' :: (List.replicate k '0' ++ ds)) 0 = Nat.ofDigitChars 10 ds 0 := by
  rw [Nat.ofDigitChars_cons, Nat.ofDigitChars_append, Nat.ofDigitChars_replicate_zero]
  simp

/-- Every layout of a digit string reads back as the same coefficient and
exponent, in plain and in scientific notation. -/
theorem parseUnsigned_layout {ds : List Char} (hd : ∀ c ∈ ds, c.isDigit = true)
    (nonempty : ds ≠ []) (e : Int) :
    parseUnsigned (layout ds e) = some ⟨Nat.ofDigitChars 10 ds 0, e⟩ := by
  have positive : 0 < ds.length := List.length_pos_iff.mpr nonempty
  have suffix : ∀ left dot : Int,
      (if left = dot then [] else 'E' :: signedDigits (left - dot)) = exponentPart (left - dot) := by
    intro left dot
    simp only [exponentPart, sub_eq_zero]
  simp only [layout, suffix]
  generalize hdot : (if e ≤ 0 ∧ -6 < e + (ds.length : Int) then e + (ds.length : Int) else 1) = dot
  by_cases small : dot ≤ 0
  · -- The point falls before the digits, so the notation is plain.
    have plain : dot = e + ds.length := by split at hdot <;> omega
    have zeros : ∀ c ∈ List.replicate (-dot).toNat '0' ++ ds, c.isDigit = true := by
      intro c h
      rcases List.mem_append.mp h with h | h
      · obtain ⟨_, rfl⟩ := List.mem_replicate.mp h
        rfl
      · exact hd c h
    have leading : ∀ c ∈ ['0'], c.isDigit = true := by
      intro c h
      rw [List.mem_singleton.mp h]
      rfl
    have read := parseUnsigned_fraction leading zeros (by simp) (e + ds.length - dot)
    simp only [List.singleton_append, ofDigitChars_zeros, List.length_append,
      List.length_replicate, Nat.cast_add] at read
    rw [if_pos small, List.cons_append, List.cons_append, read]
    congr 2
    omega
  · by_cases fits : (ds.length : Int) ≤ dot
    · -- No digit is behind the point: nothing is padded, only an exponent may follow.
      have exact : dot = ds.length := by split at hdot <;> omega
      have pad : (dot - ds.length).toNat = 0 := by omega
      rw [if_neg small, if_pos fits, pad, List.replicate_zero, List.append_nil,
        parseUnsigned_whole hd nonempty, exact]
      congr 2
      omega
    · have before : ∀ c ∈ ds.take dot.toNat, c.isDigit = true := fun c h => hd c (List.mem_of_mem_take h)
      have after : ∀ c ∈ ds.drop dot.toNat, c.isDigit = true := fun c h => hd c (List.mem_of_mem_drop h)
      have inside : ds.take dot.toNat ≠ [] := by
        intro empty
        have := congrArg List.length empty
        simp only [List.length_take, List.length_nil] at this
        omega
      have read := parseUnsigned_fraction before after inside (e + ds.length - dot)
      rw [List.take_append_drop, List.length_drop] at read
      rw [if_neg small, if_neg fits, List.append_assoc, List.cons_append, read]
      congr 2
      omega

theorem layout_mem {ds : List Char} (hd : ∀ c ∈ ds, c.isDigit = true) (e : Int) :
    ∀ c ∈ layout ds e, c.isDigit = true ∨ c = '.' ∨ c = 'E' ∨ c = '+' ∨ c = '-' := by
  intro c h
  simp only [layout] at h
  generalize (if e ≤ 0 ∧ -6 < e + (ds.length : Int) then e + (ds.length : Int) else 1) = dot at h
  rcases List.mem_append.mp h with h | h
  · split at h
    · simp only [List.mem_cons, List.mem_append, List.mem_replicate] at h
      rcases h with rfl | rfl | ⟨_, rfl⟩ | h
      · exact .inl rfl
      · exact .inr (.inl rfl)
      · exact .inl rfl
      · exact .inl (hd c h)
    · split at h
      · rcases List.mem_append.mp h with h | h
        · exact .inl (hd c h)
        · obtain ⟨_, rfl⟩ := List.mem_replicate.mp h
          exact .inl rfl
      · simp only [List.mem_append, List.mem_cons] at h
        rcases h with h | rfl | h
        · exact .inl (hd c (List.mem_of_mem_take h))
        · exact .inr (.inl rfl)
        · exact .inl (hd c (List.mem_of_mem_drop h))
  · split at h
    · simp at h
    · simp only [signedDigits, List.mem_cons] at h
      rcases h with rfl | rfl | h
      · exact .inr (.inr (.inl rfl))
      · split <;> simp
      · exact .inl (digits_isDigit h)

theorem layout_head {ds : List Char} (hd : ∀ c ∈ ds, c.isDigit = true) (nonempty : ds ≠ []) (e : Int) :
    ∃ c cs, layout ds e = c :: cs ∧ c.isDigit = true := by
  obtain ⟨d, rest, rfl⟩ := List.exists_cons_of_ne_nil nonempty
  simp only [layout]
  generalize (if e ≤ 0 ∧ -6 < e + ((d :: rest).length : Int) then e + ((d :: rest).length : Int) else 1) = dot
  by_cases small : dot ≤ 0
  · exact ⟨'0', _, by rw [if_pos small]; rfl, rfl⟩
  · by_cases fits : ((d :: rest).length : Int) ≤ dot
    · exact ⟨d, _, by rw [if_neg small, if_pos fits]; rfl, hd d (by simp)⟩
    · obtain ⟨k, hk⟩ : ∃ k, dot.toNat = k + 1 := ⟨dot.toNat - 1, by omega⟩
      exact ⟨d, _, by rw [if_neg small, if_neg fits, hk]; rfl, hd d (by simp)⟩

/-- Printing then reading returns the number itself, exponent included. -/
theorem parse_str (d : Decimal) : parse d.str = .finite d := by
  have hd : ∀ c ∈ digits d.coeff.natAbs, c.isDigit = true := fun c h => digits_isDigit h
  have nonempty : digits d.coeff.natAbs ≠ [] := Nat.toDigits_ne_nil
  have value : Nat.ofDigitChars 10 (digits d.coeff.natAbs) 0 = d.coeff.natAbs := Nat.ofDigitChars_ten_toDigits
  have read := parseUnsigned_layout hd nonempty d.exponent
  have clean : (layout (digits d.coeff.natAbs) d.exponent).filter (· != '_') =
      layout (digits d.coeff.natAbs) d.exponent := by
    apply List.filter_eq_self.mpr
    intro c h
    rcases layout_mem hd d.exponent c h with digit | rfl | rfl | rfl | rfl
    · by_contra underscore
      simp only [bne_iff_ne, ne_eq, not_not] at underscore
      subst underscore
      exact absurd digit (by decide)
    all_goals decide
  rw [value] at read
  by_cases negative : d.coeff < 0
  · have back : (⟨(d.coeff.natAbs : Int), d.exponent⟩ : Decimal).neg = d := by
      cases d
      simp only [neg, Decimal.mk.injEq, and_true]
      simp only at negative
      omega
    simp only [parse, str, if_pos negative, List.singleton_append, String.toList_ofList, List.filter_cons,
      show ('-' != '_') = true from rfl, if_true, clean, parseBody, read, back]
  · have same : (d.coeff.natAbs : Int) = d.coeff := by omega
    obtain ⟨c, cs, first, digit⟩ := layout_head hd nonempty d.exponent
    have body : parseBody (layout (digits d.coeff.natAbs) d.exponent) = .finite d := by
      simp only [parseBody, read, same]
    simp only [parse, str, if_neg negative, List.nil_append, String.toList_ofList, clean]
    rw [first] at body ⊢
    split
    · simp_all
    · simp_all
    · exact body

theorem str_injective : Function.Injective str := fun a b same => by
  have read := parse_str a
  rw [same, parse_str b] at read
  cases read
  rfl

end Decimal
