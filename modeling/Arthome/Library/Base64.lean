import Mathlib.Data.List.Basic
import Mathlib.Tactic.SplitIfs

/-!
# Base64 under the URL alphabet

Bytes are written three at a time as four symbols of six bits, without padding. What is read
back may mix both alphabets, and every character of neither is passed over.
-/

namespace Arthome.Library.Base64

/-- The symbols, each at the six bits it stands for. -/
def alphabet : List Char :=
  "ABCDEFGHIJKLMNOPQRSTUVWXYZabcdefghijklmnopqrstuvwxyz0123456789-_".toList

def symbolOf (sextet : ℕ) : Char := alphabet.getD sextet 'A'

/-- What a symbol stands for in either alphabet, nothing for any other character. -/
def sextetOf (symbol : Char) : Option ℕ :=
  if symbol = '+' then some 62
  else if symbol = '/' then some 63
  else alphabet.findIdx? fun other => other = symbol

def encode : List ℕ → List Char
  | [] => []
  | [a] => [symbolOf (a / 4), symbolOf (a % 4 * 16)]
  | [a, b] => [symbolOf (a / 4), symbolOf (a % 4 * 16 + b / 16), symbolOf (b % 16 * 4)]
  | a :: b :: c :: bytes =>
    symbolOf (a / 4) :: symbolOf (a % 4 * 16 + b / 16) :: symbolOf (b % 16 * 4 + c / 64) ::
      symbolOf (c % 64) :: encode bytes

/-- The whole bytes among the bits of the sextets. -/
def bytesOf : List ℕ → List ℕ
  | a :: b :: c :: d :: sextets =>
    (a * 4 + b / 16) :: (b % 16 * 16 + c / 4) :: (c % 4 * 64 + d) :: bytesOf sextets
  | [a, b, c] => [a * 4 + b / 16, b % 16 * 16 + c / 4]
  | [a, b] => [a * 4 + b / 16]
  | _ => []

def decode (text : List Char) : List ℕ := bytesOf (text.filterMap sextetOf)

theorem sextetOf_symbolOf {sextet : ℕ} (h : sextet < 64) :
    sextetOf (symbolOf sextet) = some sextet := by
  have hall : ∀ sextet < 64, sextetOf (symbolOf sextet) = some sextet := by
    decide +kernel
  exact hall sextet h

/-- What is written is read back. -/
theorem decode_encode {bytes : List ℕ} (h : ∀ byte ∈ bytes, byte < 256) :
    decode (encode bytes) = bytes := by
  unfold decode
  induction bytes using encode.induct with
  | case1 => rfl
  | case2 a =>
      have ha : a < 256 := h a (by simp)
      rw [encode, List.filterMap_cons_some (sextetOf_symbolOf (by omega)),
        List.filterMap_cons_some (sextetOf_symbolOf (by omega)), List.filterMap_nil, bytesOf]
      congr 1
      omega
  | case3 a b =>
      have ha : a < 256 := h a (by simp)
      have hb : b < 256 := h b (by simp)
      rw [encode, List.filterMap_cons_some (sextetOf_symbolOf (by omega)),
        List.filterMap_cons_some (sextetOf_symbolOf (by omega)),
        List.filterMap_cons_some (sextetOf_symbolOf (by omega)), List.filterMap_nil, bytesOf]
      congr 1
      · omega
      · congr 1
        omega
  | case4 a b c bytes ih =>
      have ha : a < 256 := h a (by simp)
      have hb : b < 256 := h b (by simp)
      have hc : c < 256 := h c (by simp)
      have hrest : ∀ byte ∈ bytes, byte < 256 := fun byte hbyte => h byte (by simp [hbyte])
      rw [encode, List.filterMap_cons_some (sextetOf_symbolOf (by omega)),
        List.filterMap_cons_some (sextetOf_symbolOf (by omega)),
        List.filterMap_cons_some (sextetOf_symbolOf (by omega)),
        List.filterMap_cons_some (sextetOf_symbolOf (by omega)), bytesOf, ih hrest]
      have hfirst : a / 4 * 4 + (a % 4 * 16 + b / 16) / 16 = a := by omega
      have hsecond : (a % 4 * 16 + b / 16) % 16 * 16 + (b % 16 * 4 + c / 64) / 4 = b := by omega
      have hthird : (b % 16 * 4 + c / 64) % 4 * 64 + c % 64 = c := by omega
      rw [hfirst, hsecond, hthird]

end Arthome.Library.Base64
