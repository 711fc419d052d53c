import Mathlib
import Tokenry.Value

namespace Tokenry

namespace Number

namespace Ratio

def toRat (a : Ratio) : ℚ := a.num / a.den

theorem toRat_nonneg (a : Ratio) : 0 ≤ a.toRat := by
  unfold toRat
  positivity

theorem toRat_eq_iff {a b : Ratio} (ha : 0 < a.den) (hb : 0 < b.den) :
    a.toRat = b.toRat ↔ a.num * b.den = b.num * a.den := by
  have ha' : (a.den : ℚ) ≠ 0 := by positivity
  have hb' : (b.den : ℚ) ≠ 0 := by positivity
  rw [toRat, toRat, div_eq_div_iff ha' hb']
  exact_mod_cast Iff.rfl

end Ratio

namespace Binary64

inductive Amount where
  | finite (value : ℚ)
  | infinite (negative : Bool)

def signed (negative : Bool) (size : ℚ) : ℚ := if negative then -size else size

theorem signed_eq_iff {n n' : Bool} {a b : ℚ} (ha : 0 ≤ a) (hb : 0 ≤ b) :
    signed n a = signed n' b ↔ a = b ∧ (a = 0 ∨ n = n') := by
  constructor
  · intro h
    cases n <;> cases n' <;> simp only [signed, if_true, if_false, Bool.false_eq_true] at h
    · exact ⟨h, .inr rfl⟩
    · exact ⟨by linarith, .inl (by linarith)⟩
    · exact ⟨by linarith, .inl (by linarith)⟩
    · exact ⟨by linarith, .inr rfl⟩
  · rintro ⟨rfl, rfl | rfl⟩
    · simp [signed]
    · rfl

theorem signed_natAbs (k : Int) : signed (decide (k < 0)) k.natAbs = k := by
  cases k with
  | ofNat n => simp [signed]
  | negSucc n => simp [signed, Int.negSucc_lt_zero]

/-- What a number amounts to, if it is one. -/
def amount? : Binary64 → Option Amount
  | .finite negative mantissa exponent =>
    some (.finite (signed negative (magnitude mantissa exponent).toRat))
  | .infinite negative => some (.infinite negative)
  | .nan => none

variable {m m' : Nat} {e e' : Int}

theorem magnitude_den_pos : 0 < (magnitude m e).den := by
  cases e <;> simp [magnitude, Ratio.scaled]

theorem toRat_magnitude_eq_zero_iff : (magnitude m e).toRat = 0 ↔ m = 0 := by
  have hden : ((magnitude m e).den : ℚ) ≠ 0 := Nat.cast_ne_zero.mpr magnitude_den_pos.ne'
  rw [Ratio.toRat, div_eq_zero_iff, or_iff_left hden, Nat.cast_eq_zero]
  cases e <;> simp [magnitude, Ratio.scaled]

theorem equal_iff {x y : Binary64} :
    x.equal y = true ↔ ∃ a, x.amount? = some a ∧ y.amount? = some a := by
  cases x <;> cases y
  case finite.finite n m e n' m' e' =>
    have hsigned : signed n' (magnitude m' e').toRat = signed n (magnitude m e).toRat ↔
        (magnitude m e).num * (magnitude m' e').den = (magnitude m' e').num * (magnitude m e).den ∧
          (m = 0 ∨ n = n') := by
      rw [eq_comm, signed_eq_iff (Ratio.toRat_nonneg _) (Ratio.toRat_nonneg _),
        Ratio.toRat_eq_iff magnitude_den_pos magnitude_den_pos, toRat_magnitude_eq_zero_iff]
    simp [equal, amount?, hsigned]
  all_goals simp [equal, amount?, eq_comm]

theorem equalInt_iff {x : Binary64} {k : Int} :
    x.equalInt k = true ↔ x.amount? = some (.finite k) := by
  cases x with
  | finite n m e =>
    have hden : ((magnitude m e).den : ℚ) ≠ 0 := Nat.cast_ne_zero.mpr magnitude_den_pos.ne'
    have hsize : (magnitude m e).toRat = k.natAbs ↔
        k.natAbs * (magnitude m e).den = (magnitude m e).num := by
      rw [Ratio.toRat, div_eq_iff hden, eq_comm]
      exact_mod_cast Iff.rfl
    have hsigned : signed n (magnitude m e).toRat = k ↔
        k.natAbs * (magnitude m e).den = (magnitude m e).num ∧ (m = 0 ∨ n = decide (k < 0)) := by
      rw [← hsize, ← toRat_magnitude_eq_zero_iff (m := m) (e := e),
        ← signed_eq_iff (Ratio.toRat_nonneg _) (by positivity), signed_natAbs]
    simp [equalInt, amount?, hsigned]
  | _ => simp [equalInt, amount?]

end Binary64

end Number

namespace Value

open Number (Binary64)

def amount? : Value → Option Binary64.Amount
  | .bool b => some (.finite (ofBool b))
  | .int n => some (.finite n)
  | .float x => x.amount?
  | _ => none

theorem ofBool_inj {a b : Bool} : ofBool a = ofBool b ↔ a = b := by
  cases a <;> cases b <;> decide

section Numbers

attribute [local simp] equal amount? Binary64.equal_iff Binary64.equalInt_iff ofBool_inj

variable {v : Value}

theorem equal_bool_iff {b : Bool} :
    (bool b).equal v = true ↔ v.amount? = some (.finite (ofBool b)) := by
  cases v with
  | bool _ | int _ => simpa using eq_comm
  | _ => simp

theorem equal_int_iff {n : Int} : (int n).equal v = true ↔ v.amount? = some (.finite n) := by
  cases v with
  | bool _ | int _ => simpa using eq_comm
  | _ => simp

theorem equal_float_iff {x : Binary64} :
    (float x).equal v = true ↔ ∃ a, x.amount? = some a ∧ v.amount? = some a := by
  cases v <;> simp

theorem amount?_eq_of_equal {w : Value} {a : Binary64.Amount} (hv : v.amount? = some a)
    (h : v.equal w = true) : w.amount? = some a := by
  cases v with
  | bool b =>
    rw [← hv]
    exact equal_bool_iff.mp h
  | int n =>
    rw [← hv]
    exact equal_int_iff.mp h
  | float x =>
    obtain ⟨_, hx, hw⟩ := equal_float_iff.mp h
    rw [hw, ← hx]
    exact hv
  | _ => cases hv

end Numbers

section Containers

attribute [local simp] equal

variable {v : Value}

theorem equal_list_iff {as : List Value} :
    (list as).equal v = true ↔ ∃ bs, v = .list bs ∧ equalItems as bs = true := by
  cases v <;> simp

theorem equal_tuple_iff {as : List Value} :
    (tuple as).equal v = true ↔ ∃ bs, v = .tuple bs ∧ equalItems as bs = true := by
  cases v <;> simp

theorem equal_mapping_iff {as : List (Value × Value)} : (mapping as).equal v = true ↔
    ∃ bs, v = .mapping bs ∧ as.length = bs.length ∧ entriesIn as bs = true := by
  cases v <;> simp

theorem equal_set_iff {as : List Value} : (set as).equal v = true ↔
    ∃ bs, v = .set bs ∧ as.length = bs.length ∧ itemsIn as bs = true := by
  cases v <;> simp

theorem equal_record_iff {name : String} {as : List (String × Value)} :
    (record name as).equal v = true ↔ ∃ bs, v = .record name bs ∧ equalFields as bs = true := by
  cases v with
  | record name' bs =>
    rw [equal, Bool.and_eq_true, beq_iff_eq]
    constructor
    · rintro ⟨rfl, h⟩
      exact ⟨bs, rfl, h⟩
    · rintro ⟨_, ⟨⟩, h⟩
      exact ⟨rfl, h⟩
  | _ => simp

theorem equal_member_iff {e name : String} {w : Value} :
    (member e name w).equal v = true ↔ ∃ w', v = .member e name w' := by
  cases v with
  | member e' name' w' =>
    rw [equal, Bool.and_eq_true, beq_iff_eq, beq_iff_eq]
    constructor
    · rintro ⟨rfl, rfl⟩
      exact ⟨w', rfl⟩
    · rintro ⟨_, ⟨⟩⟩
      exact ⟨rfl, rfl⟩
  | _ => simp

theorem equalItems_nil_iff {bs : List Value} : equalItems [] bs = true ↔ bs = [] := by
  cases bs <;> simp [equalItems]

theorem equalItems_cons_iff {a : Value} {as bs : List Value} : equalItems (a :: as) bs = true ↔
    ∃ b rest, bs = b :: rest ∧ a.equal b = true ∧ equalItems as rest = true := by
  cases bs <;> simp [equalItems]

theorem equalFields_nil_iff {bs : List (String × Value)} : equalFields [] bs = true ↔ bs = [] := by
  cases bs <;> simp [equalFields]

theorem equalFields_cons_iff {name : String} {a : Value} {as bs : List (String × Value)} :
    equalFields ((name, a) :: as) bs = true ↔
      ∃ b rest, bs = (name, b) :: rest ∧ a.equal b = true ∧ equalFields as rest = true := by
  cases bs with
  | nil => simp [equalFields]
  | cons field rest =>
    obtain ⟨name', b⟩ := field
    rw [equalFields, Bool.and_eq_true, Bool.and_eq_true, beq_iff_eq]
    constructor
    · rintro ⟨⟨rfl, h⟩, hrest⟩
      exact ⟨b, rest, rfl, h, hrest⟩
    · rintro ⟨_, _, ⟨⟩, h, hrest⟩
      exact ⟨⟨rfl, h⟩, hrest⟩

end Containers

def IsAtom : Value → Prop
  | .null | .text _ | .bytes _ | .date _ _ _ | .moment _ | .location _ | .range _ | .kind _ => True
  | _ => False

theorem eq_of_equal {a b : Value} (h : a.equal b = true) (ha : a.IsAtom) : b = a := by
  cases a <;> cases ha
  all_goals cases b <;> simp_all [equal]

theorem exists_of_entriesIn {as bs : List (Value × Value)} (h : entriesIn as bs = true) :
    ∀ a ∈ as, ∃ b ∈ bs, a.1.equal b.1 = true ∧ a.2.equal b.2 = true := by
  induction as with
  | nil => simp
  | cons a rest ih =>
    obtain ⟨k, v⟩ := a
    simp only [entriesIn, Bool.and_eq_true, List.any_eq_true] at h
    exact List.forall_mem_cons.mpr ⟨h.1, ih h.2⟩

theorem exists_of_itemsIn {as bs : List Value} (h : itemsIn as bs = true) :
    ∀ a ∈ as, ∃ b ∈ bs, a.equal b = true := by
  induction as with
  | nil => simp
  | cons a rest ih =>
    simp only [itemsIn, Bool.and_eq_true, List.any_eq_true] at h
    exact List.forall_mem_cons.mpr ⟨h.1, ih h.2⟩

mutual

theorem equal_trans : ∀ {a b c : Value}, a.equal b = true → b.equal c = true → a.equal c = true
  | .bool _, _, _, hab, hbc => equal_bool_iff.mpr (amount?_eq_of_equal (equal_bool_iff.mp hab) hbc)
  | .int _, _, _, hab, hbc => equal_int_iff.mpr (amount?_eq_of_equal (equal_int_iff.mp hab) hbc)
  | .float _, _, _, hab, hbc => by
    obtain ⟨amount, ha, hb⟩ := equal_float_iff.mp hab
    exact equal_float_iff.mpr ⟨amount, ha, amount?_eq_of_equal hb hbc⟩
  | .list as, _, _, hab, hbc => by
    obtain ⟨bs, rfl, has⟩ := equal_list_iff.mp hab
    obtain ⟨cs, rfl, hbs⟩ := equal_list_iff.mp hbc
    exact equal_list_iff.mpr ⟨cs, rfl, equalItems_trans has hbs⟩
  | .tuple as, _, _, hab, hbc => by
    obtain ⟨bs, rfl, has⟩ := equal_tuple_iff.mp hab
    obtain ⟨cs, rfl, hbs⟩ := equal_tuple_iff.mp hbc
    exact equal_tuple_iff.mpr ⟨cs, rfl, equalItems_trans has hbs⟩
  | .mapping as, _, _, hab, hbc => by
    obtain ⟨bs, rfl, hlength, has⟩ := equal_mapping_iff.mp hab
    obtain ⟨cs, rfl, hlength', hbs⟩ := equal_mapping_iff.mp hbc
    exact equal_mapping_iff.mpr ⟨cs, rfl, hlength.trans hlength', entriesIn_trans has hbs⟩
  | .set as, _, _, hab, hbc => by
    obtain ⟨bs, rfl, hlength, has⟩ := equal_set_iff.mp hab
    obtain ⟨cs, rfl, hlength', hbs⟩ := equal_set_iff.mp hbc
    exact equal_set_iff.mpr ⟨cs, rfl, hlength.trans hlength', itemsIn_trans has hbs⟩
  | .record _ as, _, _, hab, hbc => by
    obtain ⟨bs, rfl, has⟩ := equal_record_iff.mp hab
    obtain ⟨cs, rfl, hbs⟩ := equal_record_iff.mp hbc
    exact equal_record_iff.mpr ⟨cs, rfl, equalFields_trans has hbs⟩
  | .member _ _ _, _, _, hab, hbc => by
    obtain ⟨_, rfl⟩ := equal_member_iff.mp hab
    exact equal_member_iff.mpr (equal_member_iff.mp hbc)
  | .null, _, _, hab, hbc | .text _, _, _, hab, hbc | .bytes _, _, _, hab, hbc
  | .date _ _ _, _, _, hab, hbc | .moment _, _, _, hab, hbc | .location _, _, _, hab, hbc
  | .range _, _, _, hab, hbc | .kind _, _, _, hab, hbc => by
    obtain rfl := eq_of_equal hab trivial
    exact hbc

theorem equalItems_trans : ∀ {as bs cs : List Value},
    equalItems as bs = true → equalItems bs cs = true → equalItems as cs = true
  | [], _, _, hab, hbc => by
    obtain rfl := equalItems_nil_iff.mp hab
    exact hbc
  | a :: as, _, _, hab, hbc => by
    obtain ⟨b, bs, rfl, hfirst, hrest⟩ := equalItems_cons_iff.mp hab
    obtain ⟨c, cs, rfl, hfirst', hrest'⟩ := equalItems_cons_iff.mp hbc
    exact equalItems_cons_iff.mpr
      ⟨c, cs, rfl, equal_trans hfirst hfirst', equalItems_trans hrest hrest'⟩

theorem equalFields_trans : ∀ {as bs cs : List (String × Value)},
    equalFields as bs = true → equalFields bs cs = true → equalFields as cs = true
  | [], _, _, hab, hbc => by
    obtain rfl := equalFields_nil_iff.mp hab
    exact hbc
  | (name, a) :: as, _, _, hab, hbc => by
    obtain ⟨b, bs, rfl, hfirst, hrest⟩ := equalFields_cons_iff.mp hab
    obtain ⟨c, cs, rfl, hfirst', hrest'⟩ := equalFields_cons_iff.mp hbc
    exact equalFields_cons_iff.mpr
      ⟨c, cs, rfl, equal_trans hfirst hfirst', equalFields_trans hrest hrest'⟩

theorem entriesIn_trans : ∀ {as bs cs : List (Value × Value)},
    entriesIn as bs = true → entriesIn bs cs = true → entriesIn as cs = true
  | [], _, _, _, _ => by simp [entriesIn]
  | (k, v) :: as, bs, cs, hab, hbc => by
    simp only [entriesIn, Bool.and_eq_true, List.any_eq_true] at hab ⊢
    obtain ⟨⟨b, hb, hk, hv⟩, hrest⟩ := hab
    obtain ⟨c, hc, hk', hv'⟩ := exists_of_entriesIn hbc b hb
    exact ⟨⟨c, hc, equal_trans hk hk', equal_trans hv hv'⟩, entriesIn_trans hrest hbc⟩

theorem itemsIn_trans : ∀ {as bs cs : List Value},
    itemsIn as bs = true → itemsIn bs cs = true → itemsIn as cs = true
  | [], _, _, _, _ => by simp [itemsIn]
  | a :: as, bs, cs, hab, hbc => by
    simp only [itemsIn, Bool.and_eq_true, List.any_eq_true] at hab ⊢
    obtain ⟨⟨b, hb, hab⟩, hrest⟩ := hab
    obtain ⟨c, hc, hbc'⟩ := exists_of_itemsIn hbc b hb
    exact ⟨⟨c, hc, equal_trans hab hbc'⟩, itemsIn_trans hrest hbc⟩

end

section Filling

variable {entry : Value × Value} {entries filled : List (Value × Value)} {key value : Value}

theorem mem_insert (h : entry ∈ insert key value entries) :
    entry ∈ entries ∨ (entry.2 = value ∧ (entry.1 = key ∨ ∃ other ∈ entries, other.1 = entry.1)) := by
  induction entries with
  | nil =>
    obtain rfl := List.mem_singleton.mp h
    exact .inr ⟨rfl, .inl rfl⟩
  | cons first rest ih =>
    rw [insert] at h
    split at h
    · rcases List.mem_cons.mp h with rfl | h
      · exact .inr ⟨rfl, .inr ⟨first, .head _, rfl⟩⟩
      · exact .inl (.tail _ h)
    · rcases List.mem_cons.mp h with rfl | h
      · exact .inl (.head _)
      · rcases ih h with hrest | ⟨hvalue, hkey | ⟨other, hother, heq⟩⟩
        · exact .inl (.tail _ hrest)
        · exact .inr ⟨hvalue, .inl hkey⟩
        · exact .inr ⟨hvalue, .inr ⟨other, .tail _ hother, heq⟩⟩

theorem mem_entriesOf (h : entry ∈ entriesOf entries) :
    (∃ given ∈ entries, given.1 = entry.1) ∧ ∃ given ∈ entries, given.2 = entry.2 := by
  let Filled (filled : List (Value × Value)) : Prop := ∀ entry ∈ filled,
    (∃ given ∈ entries, given.1 = entry.1) ∧ ∃ given ∈ entries, given.2 = entry.2
  have hstep : ∀ filled, Filled filled → ∀ next ∈ entries,
      Filled (insert next.1 next.2 filled) := by
    intro filled hfilled next hnext entry hentry
    rcases mem_insert hentry with hold | ⟨hvalue, hkey | ⟨other, hother, hkey⟩⟩
    · exact hfilled entry hold
    · exact ⟨⟨next, hnext, hkey.symm⟩, next, hnext, hvalue.symm⟩
    · exact ⟨hkey ▸ (hfilled other hother).1, next, hnext, hvalue.symm⟩
  have hfilled : Filled (entriesOf entries) :=
    List.foldlRecOn entries _ (fun entry hentry ↦ by cases hentry) hstep
  exact hfilled entry h

theorem insert_of_forall_ne (h : ∀ entry ∈ filled, entry.1.equal key = false) :
    insert key value filled = filled ++ [(key, value)] := by
  induction filled with
  | nil => rfl
  | cons first rest ih =>
    obtain ⟨hfirst, hrest⟩ := List.forall_mem_cons.mp h
    rw [insert, if_neg (by simp [hfirst]), ih hrest]
    rfl

/-- No two entries have equal keys. -/
def KeysDiffer (entries : List (Value × Value)) : Prop :=
  entries.Pairwise fun a b ↦ a.1.equal b.1 = false

theorem entriesOf_eq_self (h : KeysDiffer entries) : entriesOf entries = entries := by
  suffices hfold : ∀ filled, KeysDiffer (filled ++ entries) →
      entries.foldl (fun filled entry ↦ insert entry.1 entry.2 filled) filled = filled ++ entries from
    hfold [] h
  clear h
  induction entries with
  | nil => simp
  | cons entry rest ih =>
    intro filled h
    have hnew := (List.pairwise_append.mp h).2.2
    rw [List.append_cons] at h
    rw [List.foldl_cons, insert_of_forall_ne fun old hold ↦ hnew old hold entry (.head _), ih _ h,
      List.append_assoc]
    rfl

theorem keys_insert (key value : Value) (filled : List (Value × Value)) :
    (insert key value filled).map (·.1) = filled.map (·.1) ∨
      insert key value filled = filled ++ [(key, value)] ∧
        ∀ entry ∈ filled, entry.1.equal key = false := by
  by_cases hnew : ∀ entry ∈ filled, entry.1.equal key = false
  · exact .inr ⟨insert_of_forall_ne hnew, hnew⟩
  · refine .inl ?_
    induction filled with
    | nil => simp at hnew
    | cons first rest ih =>
      rw [insert]
      split
      · rfl
      · next hfirst =>
        have hrest : ¬∀ entry ∈ rest, entry.1.equal key = false := by
          intro hrest
          exact hnew (List.forall_mem_cons.mpr ⟨Bool.eq_false_iff.mpr hfirst, hrest⟩)
        rw [List.map_cons, ih hrest]
        rfl

theorem KeysDiffer.of_keys (h : KeysDiffer filled) (hkeys : entries.map (·.1) = filled.map (·.1)) :
    KeysDiffer entries := by
  have hmap : (filled.map (·.1)).Pairwise fun k k' ↦ k.equal k' = false := List.pairwise_map.mpr h
  rw [← hkeys] at hmap
  exact List.pairwise_map.mp hmap

theorem KeysDiffer.concat (h : KeysDiffer filled)
    (hnew : ∀ old ∈ filled, old.1.equal entry.1 = false) : KeysDiffer (filled ++ [entry]) := by
  refine List.pairwise_append.mpr ⟨h, List.pairwise_singleton _ _, ?_⟩
  intro old hold new hmem
  obtain rfl := List.mem_singleton.mp hmem
  exact hnew old hold

theorem keysDiffer_entriesOf (entries : List (Value × Value)) : KeysDiffer (entriesOf entries) := by
  refine List.foldlRecOn entries _ .nil ?_
  intro filled hfilled entry _
  rcases keys_insert entry.1 entry.2 filled with hkeys | ⟨hlast, hnew⟩
  · exact hfilled.of_keys hkeys
  · rw [hlast]
    exact hfilled.concat hnew

theorem entriesOf_concat (entries : List (Value × Value)) (entry : Value × Value) :
    entriesOf (entries ++ [entry]) = insert entry.1 entry.2 (entriesOf entries) := by
  simp [entriesOf]

theorem length_insert_of_keys (h : (insert key value filled).map (·.1) = filled.map (·.1)) :
    (insert key value filled).length = filled.length := by
  simpa only [List.length_map] using congrArg List.length h

theorem length_entriesOf_le (entries : List (Value × Value)) :
    (entriesOf entries).length ≤ entries.length := by
  induction entries using List.reverseRecOn with
  | nil => simp [entriesOf]
  | append_singleton before entry ih =>
    rw [entriesOf_concat, List.length_append, List.length_singleton]
    rcases keys_insert entry.1 entry.2 (entriesOf before) with hkeys | ⟨hlast, -⟩
    · rw [length_insert_of_keys hkeys]
      omega
    · rw [hlast, List.length_append, List.length_singleton]
      omega

/-- A mapping keeps all that it is filled with just when no two keys are equal. -/
theorem length_entriesOf_eq_iff :
    (entriesOf entries).length = entries.length ↔ KeysDiffer entries := by
  refine ⟨fun h ↦ ?_, fun h ↦ by rw [entriesOf_eq_self h]⟩
  induction entries using List.reverseRecOn with
  | nil => exact .nil
  | append_singleton before entry ih =>
    have hle := length_entriesOf_le before
    rw [entriesOf_concat, List.length_append, List.length_singleton] at h
    rcases keys_insert entry.1 entry.2 (entriesOf before) with hkeys | ⟨hlast, hnew⟩
    · rw [length_insert_of_keys hkeys] at h
      omega
    · rw [hlast, List.length_append, List.length_singleton] at h
      have hbefore : KeysDiffer before := ih (by omega)
      -- what came before is all there, so the last key differs from each of its keys
      rw [entriesOf_eq_self hbefore] at hnew
      exact hbefore.concat hnew

end Filling

end Value

end Tokenry
