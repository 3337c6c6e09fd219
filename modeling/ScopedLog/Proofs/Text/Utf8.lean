import Mathlib.Algebra.Group.Nat.Defs
import Mathlib.Data.List.Lex
set_option autoImplicit false

/-!
The order of texts and the order of their UTF-8 bytes. The bytes of a character are a leading one,
which tells how many follow, and digits to the base 64. A greater character has a greater leading
byte, or the same one and greater digits behind it; so texts compare by their characters just as
their bytes do.
-/
namespace ScopedLog.Text

def bytes (s : String) : List UInt8 :=
  s.toUTF8.data.toList

theorem bytes_eq_flatMap (s : String) : bytes s = s.toList.flatMap String.utf8EncodeChar := by
  rw [bytes, String.toUTF8_eq_toByteArray, ← String.utf8Encode_toList, List.utf8Encode,
    List.toList_data_toByteArray]

def followers : Nat → Nat → List UInt8
  | 0, _ => []
  | k + 1, v => UInt8.ofNat (v / 64 ^ k % 64 + 0x80) :: followers k v

def followerCount (v : Nat) : Nat :=
  if v ≤ 0x7f then 0 else if v ≤ 0x7ff then 1 else if v ≤ 0xffff then 2 else 3

def leaderMark : Nat → Nat
  | 0 => 0
  | 1 => 0xc0
  | 2 => 0xe0
  | _ => 0xf0

def leader (v : Nat) : Nat :=
  leaderMark (followerCount v) + v / 64 ^ followerCount v

theorem toNat_lt (c : Char) : c.toNat < 0x110000 := by
  rcases c.valid with low | ⟨-, high⟩
  · exact Nat.lt_trans low (by decide)
  · exact high

theorem leader_lt {v : Nat} (valid : v < 0x110000) : leader v < UInt8.size := by
  unfold leader followerCount
  split_ifs <;> simp only [leaderMark, UInt8.size] <;> omega

theorem utf8EncodeChar_eq (c : Char) :
    String.utf8EncodeChar c = UInt8.ofNat (leader c.toNat) ::
      followers (followerCount c.toNat) c.toNat := by
  have valid : c.val.toNat < 0x110000 := toNat_lt c
  change String.utf8EncodeChar c = UInt8.ofNat (leader c.val.toNat) ::
    followers (followerCount c.val.toNat) c.val.toNat
  -- The leading byte has room for all that stands above its followers.
  have two (v : Nat) (h : v ≤ 0x7ff) : v / 64 % 0x20 = v / 64 := by omega
  have three (v : Nat) (h : v ≤ 0xffff) : v / 4096 % 0x10 = v / 4096 := by omega
  have four (v : Nat) (h : v < 0x110000) : v / 262144 % 0x08 = v / 262144 := by omega
  unfold String.utf8EncodeChar leader followerCount
  dsimp only
  split_ifs with one small wide
  · simp [followers, leaderMark]
  · rw [two _ small]
    simp [followers, leaderMark, Nat.add_comm]
  · rw [three _ wide]
    simp [followers, leaderMark, Nat.add_comm]
  · rw [four _ valid]
    simp [followers, leaderMark, Nat.add_comm]

theorem followers_lt {k v w : Nat} (below : v < w) (same : v / 64 ^ k = w / 64 ^ k)
    (r s : List UInt8) : followers k v ++ r < followers k w ++ s := by
  induction k with
  | zero => simp at same; omega
  | succ k ih =>
    rw [followers, followers, List.cons_append, List.cons_append, List.cons_lt_cons_iff]
    by_cases alike : v / 64 ^ k = w / 64 ^ k
    · exact .inr ⟨by rw [alike], ih alike⟩
    · refine .inl ?_
      have above : v / 64 ^ k ≤ w / 64 ^ k := Nat.div_le_div_right (Nat.le_of_lt below)
      rw [Nat.pow_succ, ← Nat.div_div_eq_div_mul, ← Nat.div_div_eq_div_mul] at same
      rw [UInt8.ofNat_lt_iff_lt (by simp [UInt8.size]; omega) (by simp [UInt8.size]; omega)]
      omega

/-- The leading byte grows with the character. Where it stays, so do the number of followers and
    what stands above them. -/
theorem leader_lt_or_eq {v w : Nat} (below : v < w) :
    leader v < leader w ∨ leader v = leader w ∧ followerCount v = followerCount w ∧
      v / 64 ^ followerCount v = w / 64 ^ followerCount v := by
  unfold leader followerCount
  split_ifs <;> simp only [leaderMark, true_and] <;> omega

theorem utf8EncodeChar_lt {c d : Char} (below : c < d) (r s : List UInt8) :
    String.utf8EncodeChar c ++ r < String.utf8EncodeChar d ++ s := by
  have numbers : c.toNat < d.toNat := below
  rw [utf8EncodeChar_eq, utf8EncodeChar_eq, List.cons_append, List.cons_append,
    List.cons_lt_cons_iff]
  rcases leader_lt_or_eq numbers with less | ⟨same, count, above⟩
  · left
    rwa [UInt8.ofNat_lt_iff_lt (leader_lt (toNat_lt c)) (leader_lt (toNat_lt d))]
  · right
    rw [same, ← count]
    exact ⟨rfl, followers_lt numbers above r s⟩

theorem flatMap_utf8EncodeChar_lt {s t : List Char} (below : s < t) :
    s.flatMap String.utf8EncodeChar < t.flatMap String.utf8EncodeChar := by
  induction below with
  | nil =>
    rw [List.flatMap_cons, utf8EncodeChar_eq]
    exact List.nil_lt_cons _ _
  | rel less =>
    rw [List.flatMap_cons, List.flatMap_cons]
    exact utf8EncodeChar_lt less _ _
  | cons _ rest =>
    rw [List.flatMap_cons, List.flatMap_cons]
    exact List.append_left_lt rest

/-- Texts are ordered by their characters as their UTF-8 bytes are. -/
theorem bytes_lt_iff (a b : String) : bytes a < bytes b ↔ a < b := by
  have grows {a b : String} (below : a < b) : bytes a < bytes b := by
    rw [bytes_eq_flatMap, bytes_eq_flatMap]
    exact flatMap_utf8EncodeChar_lt below
  constructor
  · intro less
    by_contra notBelow
    by_cases above : b < a
    · exact List.lt_asymm less (grows above)
    · obtain rfl : a = b := String.le_antisymm (String.not_lt.1 above) (String.not_lt.1 notBelow)
      exact List.lt_irrefl _ less
  · exact grows

end ScopedLog.Text
