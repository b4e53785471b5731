import Arthome.Library.Base64
import Arthome.Library.JsonText

/-!
# The cursor of a search

A search is paged by offset. A cursor is the JSON of the offset and of the instant it was
issued at, in base64; it is accepted for a day, and only under the window the index can page.
-/

namespace Arthome.Catalog

open Library

def cursorLifetimeHours : ℤ := 24

def cursorLifetimeMs : ℤ := cursorLifetimeHours * 60 * 60 * 1000

/-- `from + size` past it is an error of the index, not an empty page. -/
def maxResultWindow : ℤ := 10000

/-- A time value of the clock: milliseconds no further from the epoch than a date reaches. -/
structure TimeValue where
  ms : ℤ
  inRange : ms.natAbs ≤ 8640000000000000

structure OffsetCursor where
  offset : ℤ
  issuedAtMs : ℤ
  deriving Repr, DecidableEq

inductive SchemaIssueRule where
  | invalidValue
  deriving Repr, DecidableEq

inductive CursorRefusal where
  | schemaInvalid (issues : List (List String × SchemaIssueRule))
  | cursorTooOld (maxAgeHours : ℤ)
  deriving Repr, DecidableEq

/-- The text of a cursor; it is all ASCII, so its bytes are its characters. -/
def cursorText (offset issuedAtMs : ℤ) : List Char :=
  JsonText.stringify [("offset".toList, offset), ("issuedAtMs".toList, issuedAtMs)]

def cursorAt (offset issuedAtMs : ℤ) : String :=
  String.ofList (Base64.encode ((cursorText offset issuedAtMs).map Char.toNat))

def malformedCursor : CursorRefusal := .schemaInvalid [(["cursor"], .invalidValue)]

/-- The last member of a name, when it is a safe integer. -/
def safeIntegerAt (members : List (List ℕ × JsonText.Json)) (name : String) : Option ℤ :=
  match members.reverse.find? fun member => member.1 = name.toList.map Char.toNat with
  | some (_, .number value) => JsonText.safeInteger value
  | _ => none

def decoded (cursor : String) : Option OffsetCursor :=
  match JsonText.parse ((Base64.decode cursor.toList).map Char.ofNat) with
  | some (.object members) => do
    let offset ← safeIntegerAt members "offset"
    let issuedAtMs ← safeIntegerAt members "issuedAtMs"
    return ⟨offset, issuedAtMs⟩
  | _ => none

/-- The first result a cursor points at, 0 without one. -/
def offsetOf (cursor : Option String) (nowMs : ℤ) : Except CursorRefusal ℤ :=
  match cursor with
  | none => .ok 0
  | some cursor =>
    match decoded cursor with
    | none => .error malformedCursor
    | some ⟨offset, issuedAtMs⟩ =>
      if offset < 0 ∨ maxResultWindow ≤ offset then .error malformedCursor
      else if cursorLifetimeMs < nowMs - issuedAtMs then .error (.cursorTooOld cursorLifetimeHours)
      else .ok offset

section Cursors

variable {offset issuedAtMs nowMs : ℤ}

theorem plain_names : ∀ member ∈ [("offset".toList, offset), ("issuedAtMs".toList, issuedAtMs)],
    JsonText.Plain member.1 := by
  rw [List.forall_mem_cons, List.forall_mem_singleton]
  dsimp only
  exact ⟨by simp [JsonText.Plain], by simp [JsonText.Plain]⟩

/-- The bytes of a cursor's text are its characters. -/
theorem toNat_cursorText : ∀ byte ∈ (cursorText offset issuedAtMs).map Char.toNat, byte < 256 := by
  intro byte hbyte
  obtain ⟨c, hc, rfl⟩ := List.mem_map.mp hbyte
  have hascii := JsonText.isAscii_stringify plain_names c hc
  omega

theorem parse_cursorText : JsonText.parse (cursorText offset issuedAtMs) =
    some (.object [JsonText.readBack ("offset".toList, offset),
      JsonText.readBack ("issuedAtMs".toList, issuedAtMs)]) := by
  unfold cursorText
  rw [JsonText.parse_stringify (List.cons_ne_nil _ _) plain_names]
  rfl

/-- What is issued is read back, as long as both numbers are safe integers. -/
theorem decoded_cursorAt (hoffset : offset.natAbs < 2 ^ 53) (hissued : issuedAtMs.natAbs < 2 ^ 53) :
    decoded (cursorAt offset issuedAtMs) = some ⟨offset, issuedAtMs⟩ := by
  have htext : (Base64.decode (cursorAt offset issuedAtMs).toList).map Char.ofNat =
      cursorText offset issuedAtMs := by
    unfold cursorAt
    rw [String.toList_ofList, Base64.decode_encode toNat_cursorText, List.map_map]
    conv_rhs => rw [← List.map_id (cursorText offset issuedAtMs)]
    exact List.map_congr_left fun c _ => Char.ofNat_toNat c
  unfold decoded
  rw [htext, parse_cursorText]
  have hfirst : safeIntegerAt [JsonText.readBack ("offset".toList, offset),
      JsonText.readBack ("issuedAtMs".toList, issuedAtMs)] "offset" = some offset := by
    rw [← JsonText.safeInteger_intCast hoffset]
    rfl
  have hsecond : safeIntegerAt [JsonText.readBack ("offset".toList, offset),
      JsonText.readBack ("issuedAtMs".toList, issuedAtMs)] "issuedAtMs" = some issuedAtMs := by
    rw [← JsonText.safeInteger_intCast hissued]
    rfl
  dsimp only
  rw [hfirst, hsecond]
  rfl

/-- A cursor under the window is accepted for a day, as the offset it was issued for. -/
theorem offsetOf_cursorAt (hnonneg : 0 ≤ offset) (hunder : offset < maxResultWindow)
    (issuedAt : TimeValue) (hlife : nowMs - issuedAt.ms ≤ cursorLifetimeMs) :
    offsetOf (some (cursorAt offset issuedAt.ms)) nowMs = .ok offset := by
  have hrange := issuedAt.inRange
  have hwindow : maxResultWindow = 10000 := rfl
  rw [offsetOf, decoded_cursorAt (by omega) (by omega)]
  dsimp only
  rw [if_neg (by omega), if_neg (by omega)]

/-- Whatever the cursor, the offset it is accepted as is under the window. -/
theorem offsetOf_under {cursor : Option String} (h : offsetOf cursor nowMs = .ok offset) :
    0 ≤ offset ∧ offset < maxResultWindow := by
  unfold offsetOf at h
  cases cursor with
  | none =>
      cases h
      exact ⟨le_rfl, by decide⟩
  | some cursor =>
      dsimp only at h
      cases hdecoded : decoded cursor with
      | none =>
          rw [hdecoded] at h
          cases h
      | some pointed =>
          obtain ⟨pointed, issuedAtMs⟩ := pointed
          rw [hdecoded] at h
          dsimp only at h
          split_ifs at h with hout hold
          cases h
          rw [not_or, not_lt, not_le] at hout
          exact hout

end Cursors

end Arthome.Catalog
