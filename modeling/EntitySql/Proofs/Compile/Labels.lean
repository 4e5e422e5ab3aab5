import EntitySql.Proofs.Compile.Run
import Mathlib.Data.List.Nodup

/-!
# Labels that a compilation takes

Which aliases have been taken between two states, and that none has been taken twice.

* `Aliases.name_inj`: an alias determines its prefix and its number.
* `Aliases.Taken` says that labels are aliases taken between two states, each once. Labels of one step
  are put before those of the next one by `Taken.append`.
-/

namespace EntitySql

set_option autoImplicit false

namespace Aliases

/-- What stands behind the last underscore, and what stands before it. -/
theorem append_underscore_inj {before after digits others : List Char} (hdigits : '_' ∉ digits)
    (hothers : '_' ∉ others) (h : before ++ '_' :: digits = after ++ '_' :: others) :
    before = after ∧ digits = others := by
  rcases List.append_eq_append_iff.1 h with ⟨between, rfl, heq⟩ | ⟨between, rfl, heq⟩
  · cases between with
    | nil => exact ⟨(List.append_nil _).symm, (List.cons.inj heq).2⟩
    | cons char rest =>
      -- the underscore of the second text would stand among the digits of the first
      refine absurd ?_ hdigits
      rw [(List.cons.inj heq).2]
      exact List.mem_append_right _ (List.mem_cons_self ..)
  · cases between with
    | nil => exact ⟨List.append_nil _, (List.cons.inj heq).2.symm⟩
    | cons char rest =>
      refine absurd ?_ hothers
      rw [(List.cons.inj heq).2]
      exact List.mem_append_right _ (List.mem_cons_self ..)

theorem toList_name (stem : String) (number : Nat) :
    (name stem number).toList = stem.toList ++ '_' :: Nat.toDigits 10 number := by
  simp [name]

/-- The number of an alias is what stands behind its last underscore. -/
theorem name_inj {stem other : String} {m n : Nat} :
    name stem m = name other n ↔ stem = other ∧ m = n := by
  have hdigits : ∀ number, '_' ∉ Nat.toDigits 10 number := fun number hmem =>
    absurd (Nat.isDigit_of_mem_toDigits (by decide) (Nat.le_refl 10) hmem) (by decide)
  constructor
  · intro h
    have htext := congrArg String.toList h
    rw [toList_name, toList_name] at htext
    obtain ⟨hstem, -⟩ := append_underscore_inj (hdigits m) (hdigits n) htext
    obtain rfl := String.toList_inj.1 hstem
    exact ⟨rfl, name_injective h⟩
  · rintro ⟨rfl, rfl⟩
    rfl

/-- The labels are aliases taken between two states, each once. -/
structure Taken (s s' : Aliases) (labels : List String) : Prop where
  le : s ≤ s'
  nodup : labels.Nodup
  taken : ∀ label ∈ labels, ∃ stem number, label = name stem number ∧ s.count stem ≤ number ∧
    number < s'.count stem

namespace Taken

variable {s s₁ s' : Aliases} {labels others : List String}

theorem nil (s : Aliases) : Taken s s [] :=
  ⟨le_refl s, List.nodup_nil, fun _ hlabel => absurd hlabel List.not_mem_nil⟩

theorem next (stem : String) (s : Aliases) :
    Taken s (Aliases.next stem s).2 [name stem (s.count stem)] where
  le := le_next stem s
  nodup := List.nodup_singleton _
  taken _ hlabel :=
    ⟨stem, s.count stem, List.mem_singleton.1 hlabel, Nat.le_refl _, count_lt_next stem s⟩

/-- What is taken later is different from what was taken before. -/
theorem append (h : Taken s s₁ labels) (hothers : Taken s₁ s' others) :
    Taken s s' (labels ++ others) where
  le := le_trans h.le hothers.le
  nodup := by
    refine List.Nodup.append h.nodup hothers.nodup fun label hlabel hother => ?_
    obtain ⟨stem, number, rfl, -, hlt⟩ := h.taken label hlabel
    obtain ⟨other, later, hname, hle, -⟩ := hothers.taken _ hother
    obtain ⟨rfl, rfl⟩ := name_inj.1 hname
    omega
  taken label hlabel := by
    rcases List.mem_append.1 hlabel with hmem | hmem
    · obtain ⟨stem, number, rfl, hle, hlt⟩ := h.taken label hmem
      exact ⟨stem, number, rfl, hle, Nat.lt_of_lt_of_le hlt (hothers.le stem)⟩
    · obtain ⟨stem, number, rfl, hle, hlt⟩ := hothers.taken label hmem
      exact ⟨stem, number, rfl, Nat.le_trans (h.le stem) hle, hlt⟩

theorem perm (h : Taken s s' labels) (hperm : labels.Perm others) : Taken s s' others where
  le := h.le
  nodup := hperm.nodup_iff.1 h.nodup
  taken label hlabel := h.taken label (hperm.mem_iff.2 hlabel)

/-- An alias that was taken before is not taken again. -/
theorem not_mem_of_lt (h : Taken s s' labels) {stem : String} {number : Nat}
    (hlt : number < s.count stem) : name stem number ∉ labels := by
  intro hmem
  obtain ⟨other, later, hname, hle, -⟩ := h.taken _ hmem
  obtain ⟨rfl, rfl⟩ := name_inj.1 hname
  omega

/-- Text that does not end in a digit is no alias. -/
theorem ne_of_last (h : Taken s s' labels) {text : String} {last : Char}
    (htext : text.toList.getLast? = some last) (hlast : last.isDigit = false) : text ∉ labels := by
  intro hmem
  obtain ⟨stem, number, rfl, -, -⟩ := h.taken text hmem
  rw [toList_name, List.getLast?_append, List.getLast?_cons, Option.some_or,
    Option.some.injEq] at htext
  have hdigits : Nat.toDigits 10 number ≠ [] := Nat.toDigits_ne_nil
  have hmem : last ∈ Nat.toDigits 10 number := by
    rw [List.getLast?_eq_some_getLast hdigits, Option.getD_some] at htext
    exact htext ▸ List.getLast_mem hdigits
  rw [Nat.isDigit_of_mem_toDigits (by decide) (Nat.le_refl 10) hmem] at hlast
  cases hlast

end Taken

end Aliases

end EntitySql
