import BlockTypes.Proofs.Store.Renaming

/-!
# Generated names

A generated name is a stem followed by a number, and the numbers of a store only go up. As nothing stands
between the two, two names can be one although their numbers differ: one stem is then the other with some digits
after it, and these digits are where the longer number begins (`numbered_eq_iff`). Such numbers have the same
last digit, so they are ten or more apart (`ten_le_of_suffix`). `Generates` says of a list of variables that
they were generated on the way from one store to another, and all that is said about names comes from it.
-/

namespace BlockTypes

/-! ## Stems and numbers -/

theorem toList_toString (n : Nat) : (toString n).toList = Nat.toDigits 10 n := by
  rw [Nat.toString_eq_repr, Nat.toList_repr]

theorem toDigits_injective {n m : Nat} (h : Nat.toDigits 10 n = Nat.toDigits 10 m) : n = m := by
  have hread := congrArg (fun digits => Nat.ofDigitChars 10 digits 0) h
  simpa using hread

theorem length_toDigits_mono {n m : Nat} (h : n ≤ m) :
    (Nat.toDigits 10 n).length ≤ (Nat.toDigits 10 m).length := by
  have hm : m < 10 ^ (Nat.toDigits 10 m).length :=
    (Nat.length_toDigits_le_iff (by decide) Nat.length_toDigits_pos).1 (Nat.le_refl _)
  exact (Nat.length_toDigits_le_iff (by decide) Nat.length_toDigits_pos).2 (h.trans_lt hm)

theorem getLast?_toDigits (n : Nat) : (Nat.toDigits 10 n).getLast? = some (Nat.digitChar (n % 10)) := by
  rw [Nat.toDigits_eq_if (by decide)]
  split
  · rename_i hlt
    rw [Nat.mod_eq_of_lt hlt]
    rfl
  · simp

/-- The names of two stems with different numbers are one if and only if the stem of the smaller number is the
other one, and then the digits that the greater number begins with. -/
theorem numbered_eq_iff {stem stem' : String} {n m : Nat} (h : n < m) :
    stem ++ toString n = stem' ++ toString m ↔
      ∃ lead, stem = stem' ++ lead ∧ toString m = lead ++ toString n := by
  constructor
  · intro heq
    have hlists := congrArg String.toList heq
    rw [String.toList_append, String.toList_append] at hlists
    rcases List.append_eq_append_iff.1 hlists with ⟨rest, hstem, hnumber⟩ | ⟨lead, hstem, hnumber⟩
    · -- The smaller number would end in the greater one, and so be equal to it.
      have hlength := congrArg List.length hnumber
      rw [toList_toString, toList_toString, List.length_append] at hlength
      have hmono := length_toDigits_mono (Nat.le_of_lt h)
      obtain rfl : rest = [] := List.eq_nil_of_length_eq_zero (by omega)
      rw [toList_toString, toList_toString, List.nil_append] at hnumber
      exact absurd (toDigits_injective hnumber) (Nat.ne_of_lt h)
    · refine ⟨String.ofList lead, String.toList_injective ?_, String.toList_injective ?_⟩
      · rw [hstem, String.toList_append, String.toList_ofList]
      · rw [hnumber, String.toList_append, String.toList_ofList]
  · rintro ⟨lead, rfl, hnumber⟩
    rw [hnumber, String.append_assoc]

theorem digitChar_injective {a b : Nat} (ha : a < 10) (hb : b < 10) (h : Nat.digitChar a = Nat.digitChar b) :
    a = b := by
  have hcodes := congrArg Char.toNat h
  rw [Nat.toNat_digitChar_of_lt_ten ha, Nat.toNat_digitChar_of_lt_ten hb] at hcodes
  omega

theorem ten_le_of_suffix {n m : Nat} {lead : String} (h : n < m) (hm : toString m = lead ++ toString n) :
    n + 10 ≤ m := by
  have hdigits := congrArg String.toList hm
  rw [String.toList_append, toList_toString, toList_toString] at hdigits
  have hlast := congrArg List.getLast? hdigits
  rw [List.getLast?_append_of_ne_nil _ Nat.toDigits_ne_nil, getLast?_toDigits, getLast?_toDigits] at hlast
  have hmod := digitChar_injective (Nat.mod_lt _ (by decide)) (Nat.mod_lt _ (by decide)) (Option.some.inj hlast)
  omega

/-- The last character is a digit. -/
def EndsInDigit (name : String) : Prop := ∃ d, name.toList.getLast? = some d ∧ d.isDigit = true

theorem endsInDigit_of_lead {n m : Nat} {stem lead : String} (h : n < m) (hm : toString m = lead ++ toString n) :
    EndsInDigit (stem ++ lead) := by
  have hdigits := congrArg String.toList hm
  rw [String.toList_append, toList_toString, toList_toString] at hdigits
  have hne : lead.toList ≠ [] := by
    intro hnil
    rw [hnil, List.nil_append] at hdigits
    exact absurd (toDigits_injective hdigits) (Nat.ne_of_gt h)
  have hmem : lead.toList.getLast hne ∈ Nat.toDigits 10 m := by
    rw [hdigits]
    exact List.mem_append_left _ (List.getLast_mem hne)
  refine ⟨_, ?_, Nat.isDigit_of_mem_toDigits (by decide) (by decide) hmem⟩
  rw [String.toList_append, List.getLast?_append_of_ne_nil _ hne, List.getLast?_eq_some_getLast hne]

/-- A variable that was generated, and the stem of its name. -/
structure Generated where
  stem : String
  var : TypeVar

namespace Store

variable {s s' s'' : Store} {made more : List Generated} {g k : Generated} {i j : Nat}

/-! ## Numbers that go up -/

/-- On the way from one store to another the variables were generated in this order, each with the next number
and a new cell. -/
structure Generates (s : Store) (made : List Generated) (s' : Store) : Prop where
  serial : s'.serial = s.serial + made.length
  size : s.size ≤ s'.size
  name : ∀ i g, made[i]? = some g → g.var.name = g.stem ++ toString (s.serial + i)
  cell : ∀ g ∈ made, s.size ≤ g.var.cell ∧ g.var.cell < s'.size
  ascending : made.Pairwise fun g k => g.var.cell < k.var.cell

namespace Generates

theorem quiet (serial : s'.serial = s.serial) (size : s.size ≤ s'.size) : Generates s [] s' :=
  ⟨serial, size, by simp, by simp, .nil⟩

theorem fresh (s : Store) (stem : String) (cs : ConstraintSet) :
    Generates s [⟨stem, (s.fresh stem cs).1⟩] (s.fresh stem cs).2 where
  serial := rfl
  size := by simp
  name i g hg := by
    cases i with
    | zero =>
      obtain rfl := Option.some.inj hg
      rfl
    | succ i => cases hg
  cell g hg := by
    obtain rfl := List.mem_singleton.1 hg
    exact ⟨Nat.le_refl _, (Nat.lt_succ_self _).trans_eq (size_fresh s stem cs).symm⟩
  ascending := List.pairwise_singleton _ _

theorem trans (h : Generates s made s') (h' : Generates s' more s'') : Generates s (made ++ more) s'' where
  serial := by rw [h'.serial, h.serial, List.length_append, Nat.add_assoc]
  size := h.size.trans h'.size
  name i g hg := by
    rcases Nat.lt_or_ge i made.length with hi | hi
    · rw [List.getElem?_append_left hi] at hg
      exact h.name i g hg
    · rw [List.getElem?_append_right hi] at hg
      have hname := h'.name _ g hg
      rwa [h.serial, Nat.add_assoc, Nat.add_sub_cancel' hi] at hname
  cell g hg := by
    rcases List.mem_append.1 hg with hg | hg
    · exact ⟨(h.cell g hg).1, (h.cell g hg).2.trans_le h'.size⟩
    · exact ⟨h.size.trans (h'.cell g hg).1, (h'.cell g hg).2⟩
  ascending := by
    refine List.pairwise_append.2 ⟨h.ascending, h'.ascending, fun g hg k hk => ?_⟩
    exact (h.cell g hg).2.trans_le (h'.cell k hk).1

/-- When two of the variables have one name. -/
theorem name_eq_iff (h : Generates s made s') (hij : i < j) (hi : made[i]? = some g) (hj : made[j]? = some k) :
    g.var.name = k.var.name ↔
      ∃ lead, g.stem = k.stem ++ lead ∧ toString (s.serial + j) = lead ++ toString (s.serial + i) := by
  rw [h.name i g hi, h.name j k hj]
  exact numbered_eq_iff (Nat.add_lt_add_left hij _)

/-- Two variables of one name are ten or more apart, and the stem of the first ends in a digit. -/
theorem of_name_eq (h : Generates s made s') (hij : i < j) (hi : made[i]? = some g) (hj : made[j]? = some k)
    (heq : g.var.name = k.var.name) : i + 10 ≤ j ∧ EndsInDigit g.stem := by
  obtain ⟨lead, hlead, hnumber⟩ := (h.name_eq_iff hij hi hj).1 heq
  have hlt : s.serial + i < s.serial + j := Nat.add_lt_add_left hij _
  have hfar := ten_le_of_suffix hlt hnumber
  refine ⟨by omega, ?_⟩
  rw [hlead]
  exact endsInDigit_of_lead hlt hnumber

theorem nodup_names (h : Generates s made s')
    (hmade : made.length ≤ 10 ∨ ∀ g ∈ made, ¬ EndsInDigit g.stem) : (made.map (·.var.name)).Nodup := by
  rw [List.nodup_iff_getElem?_ne_getElem?]
  intro i j hij hj heq
  rw [List.length_map] at hj
  have hi := hij.trans hj
  rw [List.getElem?_map, List.getElem?_map, List.getElem?_eq_getElem hi, List.getElem?_eq_getElem hj] at heq
  obtain ⟨hfar, hdigit⟩ :=
    h.of_name_eq hij (List.getElem?_eq_getElem hi) (List.getElem?_eq_getElem hj) (Option.some.inj heq)
  rcases hmade with hshort | hstems
  · omega
  · exact hstems _ (List.getElem_mem hi) hdigit

end Generates

/-! ## Copies -/

/-- The variables that are made for the classes of the given ones, unless they have one. -/
def renewed (s : Store) : Renewal → List TypeVar → List Generated
  | _, [] => []
  | r, v :: vs =>
    match r.copies.lookup (s.root v.cell) with
    | some _ => renewed s r vs
    | none => ⟨v.name, (r.store.fresh v.name (s.constraints v.cell)).1⟩ :: renewed s (r.add s v) vs

/-- The variables that are generated for a copy of the type. -/
def generated (s : Store) (t : Ty) : List Generated := renewed s ⟨s, []⟩ (s.resolve t).vars

theorem renewed_generates (s : Store) (r : Renewal) (vs : List TypeVar) :
    Generates r.store (renewed s r vs) (vs.foldl (Renewal.add s) r).store := by
  induction vs generalizing r with
  | nil => exact .quiet rfl (Nat.le_refl _)
  | cons v vs ih =>
    rw [renewed, List.foldl_cons]
    cases hcopy : r.copies.lookup (s.root v.cell) with
    | some w =>
      have hadd : r.add s v = r := by rw [Renewal.add, hcopy]
      rw [hadd]
      exact ih r
    | none =>
      have hadd : (r.add s v).store = (r.store.fresh v.name (s.constraints v.cell)).2 := by
        rw [Renewal.add, hcopy]
      have hrest := ih (r.add s v)
      rw [hadd] at hrest
      exact (Generates.fresh r.store v.name (s.constraints v.cell)).trans hrest

/-- The copies are the variables that were made. -/
theorem mem_renewed {r : Renewal} {vs : List TypeVar} {c : CellId} {w : TypeVar}
    (h : (vs.foldl (Renewal.add s) r).copies.lookup c = some w) :
    r.copies.lookup c = some w ∨ ∃ g ∈ renewed s r vs, g.var = w := by
  induction vs generalizing r with
  | nil => exact .inl h
  | cons v vs ih =>
    rw [List.foldl_cons] at h
    rw [renewed]
    cases hcopy : r.copies.lookup (s.root v.cell) with
    | some u =>
      have hadd : r.add s v = r := by rw [Renewal.add, hcopy]
      rw [hadd] at h
      exact ih h
    | none =>
      have hadd : (r.add s v).copies =
          (s.root v.cell, (r.store.fresh v.name (s.constraints v.cell)).1) :: r.copies := by
        rw [Renewal.add, hcopy]
      rcases ih h with old | ⟨g, hg, hvar⟩
      · rw [hadd] at old
        rcases lookup_cons_cases old with ⟨-, rfl⟩ | ⟨-, old⟩
        · exact .inr ⟨_, List.mem_cons_self, rfl⟩
        · exact .inl old
      · exact .inr ⟨g, List.mem_cons_of_mem _ hg, hvar⟩

theorem stem_of_mem_renewed {r : Renewal} {vs : List TypeVar} (h : g ∈ renewed s r vs) :
    ∃ v ∈ vs, g.stem = v.name := by
  induction vs generalizing r with
  | nil => cases h
  | cons v vs ih =>
    rw [renewed] at h
    split at h
    · obtain ⟨v', hv', hstem⟩ := ih h
      exact ⟨v', List.mem_cons_of_mem _ hv', hstem⟩
    · rcases List.mem_cons.1 h with rfl | h
      · exact ⟨v, List.mem_cons_self, rfl⟩
      · obtain ⟨v', hv', hstem⟩ := ih h
        exact ⟨v', List.mem_cons_of_mem _ hv', hstem⟩

theorem instantiate_generates (s : Store) (t : Ty) : Generates s (s.generated t) (s.instantiate t).2 :=
  renewed_generates s ⟨s, []⟩ (s.resolve t).vars

/-- The variables of a copy are among those that were generated for it. -/
theorem mem_generated {t : Ty} {w : TypeVar} (hw : w ∈ (s.instantiate t).1.vars) :
    ∃ g ∈ s.generated t, g.var = w := by
  obtain ⟨v, hv, rfl⟩ := TypeExpr.mem_vars_map.1 hw
  obtain ⟨-, covers, -⟩ := renew_makes s (s.resolve t).vars
  obtain ⟨w, hcopy⟩ := covers v hv
  rw [hcopy, Option.getD_some]
  rcases mem_renewed hcopy with old | found
  · cases old
  · exact found

theorem length_generated (s : Store) (t : Ty) : (s.generated t).length = (s.freeClasses t).card := by
  have hserial := (instantiate_generates s t).serial
  have hcount := (renew_count s (s.resolve t).vars).2
  exact Nat.add_left_cancel (hserial.symm.trans hcount)

/-- Two variables of a copy have different names if not more than ten classes were copied, or none of the names
that were copied ends in a digit. -/
theorem name_ne_of_instantiate {t : Ty} {v w : TypeVar}
    (ht : (s.freeClasses t).card ≤ 10 ∨ ∀ u ∈ (s.resolve t).vars, ¬ EndsInDigit u.name)
    (hv : v ∈ (s.instantiate t).1.vars) (hw : w ∈ (s.instantiate t).1.vars) (hne : v ≠ w) : v.name ≠ w.name := by
  obtain ⟨g, hg, rfl⟩ := mem_generated hv
  obtain ⟨k, hk, rfl⟩ := mem_generated hw
  have hmade : (s.generated t).length ≤ 10 ∨ ∀ g ∈ s.generated t, ¬ EndsInDigit g.stem := by
    rcases ht with hcard | hnames
    · exact .inl ((length_generated s t).trans_le hcard)
    · refine .inr fun g hg => ?_
      obtain ⟨u, hu, hstem⟩ := stem_of_mem_renewed hg
      rw [hstem]
      exact hnames u hu
  have hnodup := (instantiate_generates s t).nodup_names hmade
  intro heq
  exact hne (congrArg Generated.var (List.inj_on_of_nodup_map hnodup hg hk heq))

end Store

end BlockTypes
