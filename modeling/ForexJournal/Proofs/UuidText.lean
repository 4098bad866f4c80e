import Mathlib
import ForexJournal.Uuid
/-!
# Reading back the text of an identifier

An identifier is written as its 32 hexadecimal digits, most significant first, in groups of
8-4-4-4-12. Reading the grouped form takes the dashes out and folds the digits back into a
number; the fold over the digits of the low `w` places of a value gives the value modulo
`16 ^ w`, and an identifier has 32 places.
-/
namespace ForexJournal

namespace Uuid

theorem hexValue_hexDigit {k : Nat} (hk : k < 16) : hexValue? (hexDigit k) = some k := by
  have h : ∀ k : Fin 16, hexValue? (hexDigit k) = some k := by decide
  exact h ⟨k, hk⟩

theorem foldlM_hexDigits (v : Nat) (w acc : Nat) :
    ((List.range w).reverse.map fun i => hexDigit (v / Nat.pow 16 i % 16)).foldlM
        (fun n c => (hexValue? c).map (n * 16 + ·)) acc = some (acc * 16 ^ w + v % 16 ^ w) := by
  induction w generalizing acc with
  | zero => simp [Nat.mod_one]
  | succ w ih =>
    have hdigit : v / 16 ^ w % 16 < 16 := Nat.mod_lt _ (by decide)
    rw [List.range_succ, List.reverse_append, List.reverse_singleton, List.singleton_append,
      List.map_cons, List.foldlM_cons]
    simp only [Nat.pow_eq, hexValue_hexDigit hdigit, Option.map_some] at ih ⊢
    change (List.map _ (List.range w).reverse).foldlM _ (acc * 16 + v / 16 ^ w % 16) = _
    rw [ih, Nat.mod_pow_succ]
    congr 1
    ring

theorem hexDigits_length (u : Uuid) : u.hexDigits.length = 32 := by
  simp [hexDigits]

theorem hexNumber_hexDigits (u : Uuid) : hexNumber? u.hexDigits = some u.value := by
  have hlt : u.value < 16 ^ 32 := u.value_lt
  rw [hexNumber?, hexDigits, foldlM_hexDigits, Nat.zero_mul, Nat.zero_add, Nat.mod_eq_of_lt hlt]

theorem ungroup_groups {a b c e f : List Char} (ha : a.length = 8) (hb : b.length = 4)
    (hc : c.length = 4) (he : e.length = 4) (hf : f.length = 12) :
    ungroup? (a ++ '-' :: (b ++ '-' :: (c ++ '-' :: (e ++ '-' :: f)))) =
      some (a ++ b ++ c ++ e ++ f) := by
  unfold ungroup?
  rw [if_pos (by simp [ha, hb, hc, he, hf])]
  simp [List.drop_append, List.drop_eq_nil_of_le, ha, hb, hc, he]

theorem groups_append (d : List Char) :
    d.take 8 ++ (d.drop 8).take 4 ++ (d.drop 12).take 4 ++ (d.drop 16).take 4 ++ d.drop 20 = d := by
  have step : ∀ n k, (d.drop n).take k ++ d.drop (n + k) = d.drop n := fun n k => by
    rw [← List.drop_drop]; exact List.take_append_drop _ _
  simp only [List.append_assoc]
  rw [step 16 4, step 12 4, step 8 4, List.take_append_drop]

theorem parse_toText (u : Uuid) : parse u.toText = .ok u := by
  have hlen := hexDigits_length u
  have hgroups := @ungroup_groups (u.hexDigits.take 8) ((u.hexDigits.drop 8).take 4)
    ((u.hexDigits.drop 12).take 4) ((u.hexDigits.drop 16).take 4) (u.hexDigits.drop 20)
    (by simp [hlen]) (by simp [hlen]) (by simp [hlen]) (by simp [hlen]) (by simp [hlen])
  rw [groups_append] at hgroups
  unfold parse toText
  simp only [String.toList_ofList, List.append_assoc, List.cons_append,
    List.nil_append]
  have h36 : (u.hexDigits.take 8 ++ '-' :: ((u.hexDigits.drop 8).take 4 ++ '-' ::
      ((u.hexDigits.drop 12).take 4 ++ '-' :: ((u.hexDigits.drop 16).take 4 ++ '-' ::
        u.hexDigits.drop 20)))).length = 36 := by simp [hlen]
  rw [if_neg (by rw [h36]; decide), if_pos h36, hgroups]
  simp [hexNumber_hexDigits, ofNat, Nat.mod_eq_of_lt u.value_lt]

end Uuid

end ForexJournal
