import ApiTypings.Json.Basic
import Mathlib.Data.List.Nodup

/-!
# Looking up members

An entry that is found in an ordered table is one of its entries, and one is found for
every name that has any.
-/

namespace ApiTypings

variable {α β : Type} {name : String} {entries : List (String × α)}

theorem mem_of_member? {value : α} (h : member? name entries = some value) :
    (name, value) ∈ entries := by
  induction entries with
  | nil => cases h
  | cons entry rest ih =>
    obtain ⟨key, found⟩ := entry
    unfold member? at h
    split at h
    · rename_i hk
      cases h
      simp [hk]
    · exact List.mem_cons_of_mem _ (ih h)

theorem member?_eq_none (h : name ∉ entries.map Prod.fst) : member? name entries = none := by
  cases hm : member? name entries with
  | none => rfl
  | some found => exact absurd (List.mem_map_of_mem (mem_of_member? hm)) h

theorem member?_isSome_of_mem {value : α} (h : (name, value) ∈ entries) :
    ∃ found, member? name entries = some found := by
  induction entries with
  | nil => cases h
  | cons entry rest ih =>
    obtain ⟨key, found⟩ := entry
    by_cases hk : key = name
    · exact ⟨found, by simp [member?, hk]⟩
    · rcases List.mem_cons.mp h with h | h
      · cases h
        exact absurd rfl hk
      · simpa [member?, hk] using ih h

/-- Among entries of different names each is found under its own. -/
theorem member?_eq_some_iff (h : (entries.map Prod.fst).Nodup) {value : α} :
    member? name entries = some value ↔ (name, value) ∈ entries := by
  refine ⟨mem_of_member?, fun hm => ?_⟩
  obtain ⟨found, hf⟩ := member?_isSome_of_mem hm
  have he := List.inj_on_of_nodup_map h (mem_of_member? hf) hm rfl
  rw [hf, show found = value from congrArg Prod.snd he]

theorem member?_of_perm {others : List (String × α)} (h : (entries.map Prod.fst).Nodup)
    (hp : entries.Perm others) : member? name entries = member? name others := by
  have h' : (others.map Prod.fst).Nodup := (hp.map Prod.fst).nodup_iff.mp h
  refine Option.ext fun value => ?_
  rw [member?_eq_some_iff h, member?_eq_some_iff h', hp.mem_iff]

theorem member?_map (f : α → β) :
    member? name (entries.map fun (key, value) => (key, f value)) =
      (member? name entries).map f := by
  induction entries with
  | nil => rfl
  | cons entry rest ih =>
    by_cases h : entry.1 = name <;> simp [member?, h, ih]

end ApiTypings
