import Mathlib

/-!
# JSON texts

A reader of JSON texts, each of their values once and to the end, and a writer of the objects
whose members are integers. A text is a list of bytes, each as a character: the bytes of the
characters past ASCII stand in strings only, where they are kept as they come. A number is read
exactly, then rounded to a double where it is used as one.
-/

namespace Arthome.Library.JsonText

/-- A value: a number before rounding, a string as its units. -/
inductive Json where
  | null
  | bool (value : Bool)
  | number (value : ℚ)
  | string (units : List ℕ)
  | array (items : List Json)
  | object (members : List (List ℕ × Json))

/-! ## Numbers as doubles -/

/-- The nearest integer, the even one of two as near. -/
def roundEven (q : ℚ) : ℤ :=
  if q - ⌊q⌋ < 1 / 2 then ⌊q⌋
  else if 1 / 2 < q - ⌊q⌋ then ⌊q⌋ + 1
  else if ⌊q⌋ % 2 = 0 then ⌊q⌋ else ⌊q⌋ + 1

/-- The power of two the last bit of a number's double stands for. -/
def lastBit (q : ℚ) : ℤ := max (Int.log 2 |q| - 52) (-1074)

/-- The double nearest to a number; one past the largest double is as far from any safe integer. -/
def toDouble (q : ℚ) : ℚ := roundEven (q / 2 ^ lastBit q) * 2 ^ lastBit q

/-- The safe integer a number is read as, if it is one. -/
def safeInteger (q : ℚ) : Option ℤ :=
  if (toDouble q).den = 1 ∧ (toDouble q).num.natAbs < 2 ^ 53 then some (toDouble q).num else none

theorem roundEven_intCast (n : ℤ) : roundEven n = n := by
  unfold roundEven
  rw [Int.floor_intCast, sub_self, if_pos (by norm_num)]

theorem lastBit_nonpos {n : ℤ} (h : n.natAbs < 2 ^ 53) : lastBit n ≤ 0 := by
  unfold lastBit
  rw [max_le_iff]
  refine ⟨?_, by norm_num⟩
  rcases eq_or_ne n 0 with rfl | hne
  · norm_num
  · have hpos : (0 : ℚ) < |(n : ℚ)| := abs_pos.mpr (Int.cast_ne_zero.mpr hne)
    have hlt : |(n : ℚ)| < (2 : ℕ) ^ (53 : ℤ) := by
      rw [← Int.cast_abs, Int.abs_eq_natAbs]
      exact_mod_cast h
    have hlog := (Int.lt_zpow_iff_log_lt (b := 2) (by norm_num) hpos).mp hlt
    omega

theorem toDouble_intCast {n : ℤ} (h : n.natAbs < 2 ^ 53) : toDouble n = n := by
  obtain ⟨k, hk⟩ := Int.eq_ofNat_of_zero_le (neg_nonneg.mpr (lastBit_nonpos h))
  have hbit : lastBit n = -(k : ℤ) := by omega
  have hscaled : (n : ℚ) / 2 ^ lastBit n = ((n * 2 ^ k : ℤ) : ℚ) := by
    rw [hbit, zpow_neg, zpow_natCast]
    push_cast
    field_simp
  unfold toDouble
  rw [hscaled, roundEven_intCast, hbit, zpow_neg, zpow_natCast]
  push_cast
  field_simp

theorem safeInteger_intCast {n : ℤ} (h : n.natAbs < 2 ^ 53) : safeInteger n = some n := by
  unfold safeInteger
  rw [toDouble_intCast h, if_pos ⟨Rat.den_intCast n, by rwa [Rat.num_intCast]⟩, Rat.num_intCast]

/-! ## Reading -/

def isSpace (c : Char) : Bool := c = ' ' || c = '\t' || c = '\n' || c = '\r'

def skip (text : List Char) : List Char := text.dropWhile isSpace

/-- `0`, or digits the first of which is not `0`. -/
def readWhole (text : List Char) : Option (ℕ × List Char) :=
  match text with
  | [] => none
  | c :: rest =>
    if c = '0' then some (0, rest)
    else if c.isDigit then
      some (Nat.ofDigitChars 10 (text.takeWhile Char.isDigit) 0, text.dropWhile Char.isDigit)
    else none

/-- Digits after a point, when there is one. -/
def readFraction (text : List Char) : Option (ℚ × List Char) :=
  match text with
  | '.' :: rest =>
    let digits := rest.takeWhile Char.isDigit
    if digits = [] then none
    else some (Nat.ofDigitChars 10 digits 0 / 10 ^ digits.length, rest.dropWhile Char.isDigit)
  | _ => some (0, text)

def readSign (text : List Char) : ℤ × List Char :=
  match text with
  | '-' :: rest => (-1, rest)
  | '+' :: rest => (1, rest)
  | _ => (1, text)

/-- A signed exponent after `e` or `E`, when there is one. -/
def readExponent (text : List Char) : Option (ℤ × List Char) :=
  match text with
  | [] => some (0, [])
  | c :: rest =>
    if c = 'e' ∨ c = 'E' then
      let digits := (readSign rest).2.takeWhile Char.isDigit
      if digits = [] then none
      else
        some ((readSign rest).1 * Nat.ofDigitChars 10 digits 0,
          (readSign rest).2.dropWhile Char.isDigit)
    else some (0, text)

def readUnsigned (text : List Char) : Option (ℚ × List Char) := do
  let (whole, text) ← readWhole text
  let (fraction, text) ← readFraction text
  let (exponent, text) ← readExponent text
  return ((whole + fraction) * 10 ^ exponent, text)

def readNumber (text : List Char) : Option (ℚ × List Char) :=
  match text with
  | '-' :: rest => (readUnsigned rest).map fun (value, text) => (-value, text)
  | _ => readUnsigned text

def hexValue (c : Char) : Option ℕ :=
  if c.isDigit then some (c.toNat - 48)
  else if 'a' ≤ c ∧ c ≤ 'f' then some (c.toNat - 87)
  else if 'A' ≤ c ∧ c ≤ 'F' then some (c.toNat - 55)
  else none

/-- The unit an escape of one character stands for. -/
def escapedUnit (c : Char) : Option ℕ :=
  if c = '"' ∨ c = '\\' ∨ c = '/' then some c.toNat
  else if c = 'b' then some 8
  else if c = 'f' then some 12
  else if c = 'n' then some 10
  else if c = 'r' then some 13
  else if c = 't' then some 9
  else none

/-- What follows an opening quote, to the closing one. -/
def readString : List Char → Option (List ℕ × List Char)
  | [] => none
  | c :: rest =>
    if c = '"' then some ([], rest)
    else if c = '\\' then
      match rest with
      | 'u' :: a :: b :: c :: d :: rest => do
        let a ← hexValue a
        let b ← hexValue b
        let c ← hexValue c
        let d ← hexValue d
        let (units, text) ← readString rest
        return ((((a * 16 + b) * 16 + c) * 16 + d) :: units, text)
      | c :: rest => do
        let unit ← escapedUnit c
        let (units, text) ← readString rest
        return (unit :: units, text)
      | [] => none
    else if c.toNat < 32 then none
    else (readString rest).map fun (units, text) => (c.toNat :: units, text)

section Nested

variable (readValue : List Char → Option (Json × List Char))

/-- The items of an array, the first of which comes next. -/
def readItems : ℕ → List Char → Option (List Json × List Char)
  | 0, _ => none
  | fuel + 1, text => do
    let (item, text) ← readValue text
    match skip text with
    | ',' :: rest => do
      let (items, text) ← readItems fuel rest
      return (item :: items, text)
    | ']' :: rest => return ([item], rest)
    | _ => none

def readMember (text : List Char) : Option ((List ℕ × Json) × List Char) :=
  match skip text with
  | '"' :: rest => do
    let (name, text) ← readString rest
    match skip text with
    | ':' :: rest => do
      let (value, text) ← readValue rest
      return ((name, value), text)
    | _ => none
  | _ => none

/-- The members of an object, the first of which comes next. -/
def readMembers : ℕ → List Char → Option (List (List ℕ × Json) × List Char)
  | 0, _ => none
  | fuel + 1, text => do
    let (member, text) ← readMember readValue text
    match skip text with
    | ',' :: rest => do
      let (members, text) ← readMembers fuel rest
      return (member :: members, text)
    | '}' :: rest => return ([member], rest)
    | _ => none

end Nested

def readLiteral (text : List Char) : Option (Json × List Char) :=
  match text with
  | 'n' :: 'u' :: 'l' :: 'l' :: rest => some (.null, rest)
  | 't' :: 'r' :: 'u' :: 'e' :: rest => some (.bool true, rest)
  | 'f' :: 'a' :: 'l' :: 's' :: 'e' :: rest => some (.bool false, rest)
  | _ => none

/-- A value nested no deeper than the fuel, no list in it longer. -/
def readValue : ℕ → List Char → Option (Json × List Char)
  | 0, _ => none
  | fuel + 1, text =>
    match skip text with
    | [] => none
    | c :: rest =>
      if c = '-' ∨ c.isDigit = true then
        (readNumber (c :: rest)).map fun (value, text) => (.number value, text)
      else if c = '"' then (readString rest).map fun (units, text) => (.string units, text)
      else if c = '[' then
        if (skip rest).head? = some ']' then some (.array [], (skip rest).tail)
        else (readItems (readValue fuel) fuel rest).map fun (items, text) => (.array items, text)
      else if c = '{' then
        if (skip rest).head? = some '}' then some (.object [], (skip rest).tail)
        else
          (readMembers (readValue fuel) fuel rest).map fun (members, text) =>
            (.object members, text)
      else readLiteral (c :: rest)

/-- The value a text is, if it is one. -/
def parse (text : List Char) : Option Json := do
  let (value, rest) ← readValue (text.length + 1) text
  if skip rest = [] then some value else none

/-! ## Writing -/

def writeInteger (n : ℤ) : List Char :=
  if n < 0 then '-' :: Nat.toDigits 10 n.natAbs else Nat.toDigits 10 n.natAbs

def writeMember (member : List Char × ℤ) : List Char :=
  '"' :: (member.1 ++ '"' :: ':' :: writeInteger member.2)

def writeMembers : List (List Char × ℤ) → List Char
  | [] => []
  | [member] => writeMember member
  | member :: members => writeMember member ++ ',' :: writeMembers members

/-- An object whose members are integers. -/
def stringify (members : List (List Char × ℤ)) : List Char :=
  '{' :: (writeMembers members ++ ['}'])

/-! ## What is written is read back -/

/-- What may follow a number. -/
def EndsNumber : List Char → Prop
  | [] => True
  | c :: _ => c.isDigit = false ∧ c ≠ '.' ∧ c ≠ 'e' ∧ c ≠ 'E'

/-- An ASCII name no character of which is escaped. -/
def Plain (name : List Char) : Prop :=
  ∀ c ∈ name, c ≠ '"' ∧ c ≠ '\\' ∧ 32 ≤ c.toNat ∧ c.toNat < 128

instance (name : List Char) : Decidable (Plain name) :=
  inferInstanceAs (Decidable (∀ c ∈ name, c ≠ '"' ∧ c ≠ '\\' ∧ 32 ≤ c.toNat ∧ c.toNat < 128))

theorem toDigits_isDigit {n : ℕ} {c : Char} (h : c ∈ Nat.toDigits 10 n) : c.isDigit = true :=
  Nat.isDigit_of_mem_toDigits (by norm_num) (by norm_num) h

/-- Only zero is written with a first digit of zero. -/
theorem toDigits_head {n : ℕ} (hn : n ≠ 0) : (Nat.toDigits 10 n).head? ≠ some '0' := by
  induction n using Nat.strong_induction_on with
  | _ n ih =>
    rcases lt_or_ge n 10 with hlt | hge
    · rw [Nat.toDigits_of_lt_base hlt]
      interval_cases n <;> first | exact absurd rfl hn | decide
    · rw [Nat.toDigits_of_base_le (by norm_num) hge,
        List.head?_append_of_ne_nil _ Nat.toDigits_ne_nil]
      exact ih (n / 10) (by omega) (by omega)

theorem readWhole_toDigits (n : ℕ) {rest : List Char} (h : EndsNumber rest) :
    readWhole (Nat.toDigits 10 n ++ rest) = some (n, rest) := by
  have hnone : rest.takeWhile Char.isDigit = [] ∧ rest.dropWhile Char.isDigit = rest := by
    cases rest with
    | nil => exact ⟨rfl, rfl⟩
    | cons c rest => simp [h.1]
  rcases eq_or_ne n 0 with rfl | hn
  · rfl
  · cases hdigits : Nat.toDigits 10 n with
    | nil => exact absurd hdigits Nat.toDigits_ne_nil
    | cons c digits =>
        have hc : c.isDigit = true := toDigits_isDigit (n := n) (by rw [hdigits]; simp)
        have hzero : c ≠ '0' := by
          have hhead := toDigits_head hn
          rw [hdigits] at hhead
          simpa using hhead
        have hall : ∀ d ∈ c :: digits, d.isDigit = true := by
          rw [← hdigits]
          exact fun d => toDigits_isDigit
        rw [List.cons_append, readWhole, if_neg hzero, if_pos hc, ← List.cons_append, List.takeWhile_append_of_pos hall,
          List.dropWhile_append_of_pos hall, hnone.1, hnone.2, List.append_nil, ← hdigits,
          Nat.ofDigitChars_ten_toDigits]

theorem readFraction_ends {rest : List Char} (h : EndsNumber rest) :
    readFraction rest = some (0, rest) := by
  unfold readFraction
  split
  · exact absurd rfl h.2.1
  · rfl

theorem readExponent_ends {rest : List Char} (h : EndsNumber rest) :
    readExponent rest = some (0, rest) := by
  cases rest with
  | nil => rfl
  | cons c rest =>
      rw [readExponent]
      dsimp only
      rw [if_neg (not_or.mpr h.2.2)]

theorem readUnsigned_toDigits (n : ℕ) {rest : List Char} (h : EndsNumber rest) :
    readUnsigned (Nat.toDigits 10 n ++ rest) = some ((n : ℚ), rest) := by
  unfold readUnsigned
  rw [readWhole_toDigits n h]
  simp [readFraction_ends h, readExponent_ends h]

theorem readNumber_writeInteger (n : ℤ) {rest : List Char} (h : EndsNumber rest) :
    readNumber (writeInteger n ++ rest) = some ((n : ℚ), rest) := by
  unfold writeInteger
  split_ifs with hneg
  · rw [List.cons_append, readNumber, readUnsigned_toDigits n.natAbs h, Option.map_some]
    have habs : ((n.natAbs : ℕ) : ℤ) = -n := by omega
    have hcast : -((n.natAbs : ℕ) : ℚ) = n := by
      rw [← Int.cast_natCast, habs]
      push_cast
      ring
    dsimp only
    rw [hcast]
  · have habs : ((n.natAbs : ℕ) : ℚ) = n := by
      rw [← Int.cast_natCast, Int.natAbs_of_nonneg (by omega)]
    have hread := readUnsigned_toDigits n.natAbs h
    cases hdigits : Nat.toDigits 10 n.natAbs with
    | nil => exact absurd hdigits Nat.toDigits_ne_nil
    | cons c digits =>
        have hc : c.isDigit = true := toDigits_isDigit (n := n.natAbs) (by rw [hdigits]; simp)
        rw [hdigits] at hread
        rw [List.cons_append] at hread ⊢
        unfold readNumber
        split
        · rename_i heq
          rw [(List.cons.inj heq).1] at hc
          cases hc
        · rw [hread, habs]

theorem writeInteger_head (n : ℤ) :
    ∃ c digits, writeInteger n = c :: digits ∧ (c = '-' ∨ c.isDigit = true) := by
  unfold writeInteger
  split_ifs
  · exact ⟨'-', _, rfl, .inl rfl⟩
  · cases hdigits : Nat.toDigits 10 n.natAbs with
    | nil => exact absurd hdigits Nat.toDigits_ne_nil
    | cons c digits =>
        exact ⟨c, digits, rfl, .inr (toDigits_isDigit (n := n.natAbs) (by rw [hdigits]; simp))⟩

theorem isSpace_eq_false {c : Char} (h : c = '-' ∨ c.isDigit = true) : isSpace c = false := by
  rw [← Bool.not_eq_true]
  intro hspace
  simp only [isSpace, Bool.or_eq_true, decide_eq_true_eq] at hspace
  rcases h with rfl | hdigit
  · simp at hspace
  · rcases hspace with ((rfl | rfl) | rfl) | rfl <;> cases hdigit

theorem skip_cons {c : Char} (h : isSpace c = false) (rest : List Char) :
    skip (c :: rest) = c :: rest := by
  rw [skip, List.dropWhile_cons_of_neg (by rw [h]; simp)]

theorem readValue_writeInteger (fuel : ℕ) (n : ℤ) {rest : List Char} (h : EndsNumber rest) :
    readValue (fuel + 1) (writeInteger n ++ rest) = some (.number n, rest) := by
  have hread := readNumber_writeInteger n h
  obtain ⟨c, digits, hwritten, hc⟩ := writeInteger_head n
  rw [hwritten, List.cons_append] at hread ⊢
  rw [readValue, skip_cons (isSpace_eq_false hc)]
  dsimp only
  rw [if_pos hc, hread, Option.map_some]

theorem readString_plain {name : List Char} (h : Plain name) (rest : List Char) :
    readString (name ++ '"' :: rest) = some (name.map Char.toNat, rest) := by
  induction name with
  | nil =>
      rw [List.nil_append, readString.eq_def]
      dsimp only
      rw [if_pos rfl, List.map_nil]
  | cons c name ih =>
      obtain ⟨hquote, hescape, hcontrol, -⟩ := h c (by simp)
      rw [List.cons_append, readString.eq_def]
      dsimp only
      rw [if_neg hquote, if_neg hescape, if_neg (by omega),
        ih fun d hd => h d (List.mem_cons_of_mem c hd), Option.map_some, List.map_cons]

theorem writeMembers_cons (member next : List Char × ℤ) (members : List (List Char × ℤ)) :
    writeMembers (member :: next :: members) =
      writeMember member ++ ',' :: writeMembers (next :: members) := by
  rw [writeMembers]
  exact List.cons_ne_nil _ _

/-- A member as it is read back. -/
def readBack (member : List Char × ℤ) : List ℕ × Json :=
  (member.1.map Char.toNat, .number member.2)

theorem readMember_writeMember (fuel : ℕ) {member : List Char × ℤ} (h : Plain member.1)
    {rest : List Char} (hrest : EndsNumber rest) :
    readMember (readValue (fuel + 1)) (writeMember member ++ rest) =
      some (readBack member, rest) := by
  obtain ⟨name, n⟩ := member
  have hstring := readString_plain h (':' :: (writeInteger n ++ rest))
  have hvalue := readValue_writeInteger fuel n hrest
  simp only [writeMember, List.cons_append, List.append_assoc]
  rw [readMember, skip_cons (by decide)]
  simp only [hstring, Option.bind_eq_bind, Option.bind_some, skip_cons (c := ':') (by decide)]
  rw [hvalue]
  rfl

theorem readMembers_writeMembers (fuel depth : ℕ) {members : List (List Char × ℤ)}
    (hne : members ≠ []) (h : ∀ member ∈ members, Plain member.1) (hfuel : members.length ≤ fuel)
    (rest : List Char) :
    readMembers (readValue (depth + 1)) fuel (writeMembers members ++ '}' :: rest) =
      some (members.map readBack, rest) := by
  induction members generalizing fuel with
  | nil => exact absurd rfl hne
  | cons member members ih =>
      obtain ⟨fuel, rfl⟩ : ∃ k, fuel = k + 1 := ⟨fuel - 1, by simp at hfuel; omega⟩
      have hplain : Plain member.1 := h member (by simp)
      have hclosed : EndsNumber ('}' :: rest) := ⟨rfl, by decide, by decide, by decide⟩
      cases members with
      | nil =>
          rw [writeMembers, readMembers, readMember_writeMember depth hplain hclosed]
          simp only [Option.bind_eq_bind, Option.bind_some, skip_cons (c := '}') (by decide)]
          rfl
      | cons next members =>
          have hcomma : EndsNumber (',' :: (writeMembers (next :: members) ++ '}' :: rest)) :=
            ⟨rfl, by decide, by decide, by decide⟩
          have hnext := ih fuel (List.cons_ne_nil _ _)
            (fun m hm => h m (List.mem_cons_of_mem member hm)) (by simpa using hfuel)
          rw [writeMembers_cons, List.append_assoc, List.cons_append, readMembers,
            readMember_writeMember depth hplain hcomma]
          simp only [Option.bind_eq_bind, Option.bind_some, skip_cons (c := ',') (by decide), hnext]
          rfl

theorem length_writeMembers (members : List (List Char × ℤ)) :
    members.length ≤ (writeMembers members).length := by
  induction members with
  | nil => exact Nat.zero_le 0
  | cons member members ih =>
      cases members with
      | nil => simp [writeMembers, writeMember]
      | cons next members =>
          rw [writeMembers_cons, List.length_append]
          simp only [List.length_cons] at ih ⊢
          omega

/-- An object of integers under plain names is read back. -/
theorem parse_stringify {members : List (List Char × ℤ)} (hne : members ≠ [])
    (h : ∀ member ∈ members, Plain member.1) :
    parse (stringify members) = some (.object (members.map readBack)) := by
  have hlength : members.length ≤ (writeMembers members ++ ['}']).length + 1 := by
    have hle := length_writeMembers members
    rw [List.length_append]
    omega
  have hread := readMembers_writeMembers _ (writeMembers members ++ ['}']).length hne h hlength []
  obtain ⟨text, htext⟩ : ∃ text, writeMembers members ++ ['}'] = '"' :: text := by
    cases members with
    | nil => exact absurd rfl hne
    | cons member members =>
        cases members with
        | nil => exact ⟨_, rfl⟩
        | cons next members =>
            rw [writeMembers_cons]
            exact ⟨_, rfl⟩
  unfold parse stringify
  rw [htext] at hread ⊢
  rw [List.length_cons, readValue, skip_cons (by decide)]
  dsimp only
  rw [if_neg (by decide), if_neg (by decide), if_neg (by decide), if_pos rfl,
    skip_cons (c := '"') (by decide), if_neg (by simp), hread]
  rfl

theorem isAscii_writeInteger (n : ℤ) : ∀ c ∈ writeInteger n, c.toNat < 128 := by
  have hdigits : ∀ c ∈ Nat.toDigits 10 n.natAbs, c.toNat < 128 := by
    intro c hc
    have hdigit := toDigits_isDigit hc
    simp only [Char.isDigit, Bool.and_eq_true, decide_eq_true_eq] at hdigit
    have hle : c.toNat ≤ 57 := hdigit.2
    omega
  unfold writeInteger
  split_ifs
  · rw [List.forall_mem_cons]
    exact ⟨by decide, hdigits⟩
  · exact hdigits

theorem isAscii_writeMembers {members : List (List Char × ℤ)}
    (h : ∀ member ∈ members, Plain member.1) : ∀ c ∈ writeMembers members, c.toNat < 128 := by
  have hmember : ∀ member ∈ members, ∀ c ∈ writeMember member, c.toNat < 128 := by
    intro member hmember
    unfold writeMember
    simp only [List.forall_mem_cons, List.forall_mem_append]
    exact ⟨by decide, fun c hc => (h member hmember c hc).2.2.2, by decide, by decide,
      isAscii_writeInteger member.2⟩
  induction members with
  | nil => simp [writeMembers]
  | cons member members ih =>
      rw [List.forall_mem_cons] at h hmember
      cases members with
      | nil => exact hmember.1
      | cons next members =>
          rw [writeMembers_cons, List.forall_mem_append, List.forall_mem_cons]
          exact ⟨hmember.1, by decide, ih h.2 hmember.2⟩

/-- What is written is ASCII. -/
theorem isAscii_stringify {members : List (List Char × ℤ)}
    (h : ∀ member ∈ members, Plain member.1) : ∀ c ∈ stringify members, c.toNat < 128 := by
  unfold stringify
  rw [List.forall_mem_cons, List.forall_mem_append, List.forall_mem_singleton]
  exact ⟨by decide, isAscii_writeMembers h, by decide⟩

end Arthome.Library.JsonText
