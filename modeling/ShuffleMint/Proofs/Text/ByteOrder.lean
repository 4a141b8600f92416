import Mathlib.Data.Char
import Mathlib.Data.List.Lex

/-!
# The order of texts is that of their bytes

A store orders its keys by their bytes, and an address is stored in UTF-8. UTF-8 is made so that
nothing changes by it: of two characters the one with the smaller code point has the smaller bytes,
at the first place where they differ. So texts compare as their encodings do.
-/

namespace ShuffleMint

/-- The bytes of a text in UTF-8. -/
def utf8Bytes (text : String) : List UInt8 := text.toByteArray.data.toList

/-- The bytes of a text are those of its characters, one after the other. -/
theorem utf8Bytes_eq_flatMap (text : String) :
    utf8Bytes text = text.toList.flatMap String.utf8EncodeChar := by
  rw [utf8Bytes, ← String.utf8Encode_toList, List.utf8Encode, List.toList_data_toByteArray]

/-- The bytes of an array are read off one after the other. -/
theorem toList_loop_eq (bytes : ByteArray) (i : Nat) (read : List UInt8) :
    ByteArray.toList.loop bytes i read = read.reverse ++ bytes.data.toList.drop i := by
  fun_induction ByteArray.toList.loop bytes i read with
  | case1 i read hlt ih =>
    have hlength : i < bytes.data.toList.length := by simpa using hlt
    have hbyte : bytes.get! i = bytes.data.toList[i] := by
      rw [Array.getElem_toList]
      exact getElem!_pos bytes.data i hlt
    rw [ih, List.drop_eq_getElem_cons hlength, hbyte, List.reverse_cons, List.append_assoc,
      List.singleton_append]
  | case2 i read hlt =>
    have hlength : bytes.data.toList.length ≤ i := by simpa using hlt
    rw [List.drop_eq_nil_of_le hlength, List.append_nil]

/-- The bytes of a text in UTF-8 are those that its array holds. -/
theorem toList_toUTF8 (text : String) : text.toUTF8.toList = utf8Bytes text := by
  rw [ByteArray.toList, toList_loop_eq]
  rfl

/-- A text is told by its bytes. -/
theorem utf8Bytes_inj {a b : String} : utf8Bytes a = utf8Bytes b ↔ a = b := by
  rw [utf8Bytes, utf8Bytes, Array.toList_inj, ← ByteArray.ext_iff, String.toByteArray_inj]

/-- Of two numbers the smaller one has the smaller quotient, or else the smaller remainder. -/
theorem div_lt_or_mod_lt {v w : Nat} (h : v < w) (n : Nat) :
    v / n < w / n ∨ v / n = w / n ∧ v % n < w % n := by
  rcases Nat.lt_or_eq_of_le (Nat.div_le_div_right (c := n) h.le) with hlt | heq
  · exact .inl hlt
  · have hv := Nat.div_add_mod v n
    have hw := Nat.div_add_mod w n
    rw [heq] at hv
    exact .inr ⟨heq, by omega⟩

/-- The encoding of the smaller character comes first, whatever follows. -/
theorem utf8EncodeChar_append_lt {c d : Char} (h : c < d) (rest others : List UInt8) :
    String.utf8EncodeChar c ++ rest < String.utf8EncodeChar d ++ others := by
  have hcd : c.val.toNat < d.val.toNat := h
  have hd : d.val.toNat < 1114112 := by
    have hvalid := d.valid
    simp only [UInt32.isValidChar, Nat.isValidChar] at hvalid
    omega
  simp only [String.utf8EncodeChar]
  generalize c.val.toNat = v at *
  generalize d.val.toNat = w at *
  -- The digits to the base 64, from the last to the first: all bytes but the first hold one each.
  have hlast := div_lt_or_mod_lt hcd 64
  have hthird : v / 64 < w / 64 →
      v / 4096 < w / 4096 ∨ v / 4096 = w / 4096 ∧ v / 64 % 64 < w / 64 % 64 := by
    intro hlt
    have hdigits := div_lt_or_mod_lt hlt 64
    rwa [Nat.div_div_eq_div_mul, Nat.div_div_eq_div_mul] at hdigits
  have hsecond : v / 4096 < w / 4096 →
      v / 262144 < w / 262144 ∨ v / 262144 = w / 262144 ∧ v / 4096 % 64 < w / 4096 % 64 := by
    intro hlt
    have hdigits := div_lt_or_mod_lt hlt 64
    rwa [Nat.div_div_eq_div_mul, Nat.div_div_eq_div_mul] at hdigits
  have hv : v / 262144 < 8 := by omega
  have hw : w / 262144 < 8 := by omega
  -- One case for each pair of lengths; of encodings with different lengths the first bytes differ.
  split_ifs
  all_goals
    simp only [List.cons_append, List.nil_append, List.cons_lt_cons_iff, UInt8.lt_iff_toNat_lt,
      ← UInt8.toNat_inj, UInt8.toNat_ofNat']
    simp (disch := omega) only [Nat.mod_eq_of_lt, Nat.add_lt_add_iff_right,
      Nat.add_right_cancel_iff]
    try omega

/-- The encoding of a smaller list of characters is smaller. -/
theorem flatMap_utf8EncodeChar_lt {cs ds : List Char} (h : cs < ds) :
    cs.flatMap String.utf8EncodeChar < ds.flatMap String.utf8EncodeChar := by
  induction cs generalizing ds with
  | nil =>
    cases ds with
    | nil => exact absurd h (List.lt_irrefl [])
    | cons d ds =>
      rw [List.flatMap_cons, List.flatMap_nil]
      obtain ⟨byte, bytes, hbytes⟩ :=
        List.exists_cons_of_ne_nil (String.utf8EncodeChar_ne_nil (c := d))
      rw [hbytes, List.cons_append]
      exact List.nil_lt_cons _ _
  | cons c cs ih =>
    cases ds with
    | nil => exact absurd h (List.not_lt_nil _)
    | cons d ds =>
      rw [List.flatMap_cons, List.flatMap_cons]
      rcases List.cons_lt_cons_iff.mp h with hfirst | ⟨rfl, hrest⟩
      · exact utf8EncodeChar_append_lt hfirst _ _
      · exact List.append_left_lt (ih hrest)

/-- Texts are ordered as their bytes in UTF-8 are. -/
theorem utf8Bytes_lt_iff {a b : String} : utf8Bytes a < utf8Bytes b ↔ a < b := by
  have forward {a b : String} (h : a < b) : utf8Bytes a < utf8Bytes b := by
    rw [utf8Bytes_eq_flatMap, utf8Bytes_eq_flatMap]
    exact flatMap_utf8EncodeChar_lt (String.lt_iff.mp h)
  constructor
  · intro h
    by_contra hab
    by_cases hba : b < a
    · exact List.lt_asymm h (forward hba)
    · obtain rfl := String.le_antisymm (String.not_lt.mp hba) (String.not_lt.mp hab)
      exact List.lt_irrefl _ h
  · exact forward

end ShuffleMint
