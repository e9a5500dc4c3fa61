import HistEdit.Text.Bytes

/-!
The byte order of texts is linear: it is the lexicographic order of their bytes, and different texts
have different bytes.
-/

namespace HistEdit.Text

theorem bytes_toList (text : String) : bytes text.toList = text.toByteArray.data.toList := by
  rw [← String.utf8Encode_toList]
  simp [List.utf8Encode, bytes]

theorem bytes_toList_inj {a b : String} : bytes a.toList = bytes b.toList ↔ a = b := by
  rw [bytes_toList, bytes_toList, Array.toList_inj, ← String.toByteArray_inj, ByteArray.ext_iff]

theorem bytesLE_iff (as bs : List UInt8) : bytesLE as bs ↔ as ≤ bs := by
  induction as generalizing bs with
  | nil => simp [bytesLE]
  | cons a as ih =>
      cases bs with
      | nil => simp [bytesLE]
      | cons b bs => simp [bytesLE, ih, List.cons_le_cons_iff]

theorem le_iff (a b : String) : le a b ↔ bytes a.toList ≤ bytes b.toList :=
  bytesLE_iff _ _

theorem le_total (a b : String) : le a b || le b a := by
  simp only [Bool.or_eq_true, le_iff]
  exact List.le_total _ _

theorem le_trans (a b c : String) : le a b → le b c → le a c := by
  simp only [le_iff]
  exact List.le_trans

theorem lt_of_le_of_ne {a b : String} (hle : le a b) (hne : a ≠ b) :
    bytes a.toList < bytes b.toList := by
  refine List.not_le.1 fun hge => hne ?_
  exact bytes_toList_inj.1 (List.le_antisymm ((le_iff a b).1 hle) hge)

end HistEdit.Text
