import Mathlib
import ApiTypings.Proofs.Generation
import ApiTypings.Proofs.Locations

/-!
# Which declarations share a name

A module has two declarations of one name exactly if two definitions have one
location. With the standard settings several prefixes are dropped from qualified
names, so names that differ in the prefix alone have one location; names that
begin alike have one only if an empty segment or a slash is in the way.
-/

namespace ApiTypings

namespace Naming

/-- With the standard settings the names have one location. -/
def Clash (a b : String) : Prop :=
  ∃ s t, simplify Settings.standardPrefixes a = some s ∧
    simplify Settings.standardPrefixes b = some t ∧
    modulePart s = modulePart t ∧ localName s = localName t

/-- Nothing is lost of the simplified form of the name in its location. -/
def TidyName (name : String) : Prop :=
  ∀ simplified, simplify Settings.standardPrefixes name = some simplified → Tidy simplified

theorem clash_iff_location_eq {a b : String} {la lb : Location}
    (ha : Settings.standard.naming.location a = .ok (some la))
    (hb : Settings.standard.naming.location b = .ok (some lb)) : Clash a b ↔ la = lb := by
  obtain ⟨s, hs, rfl⟩ := standard_location_iff.mp ha
  obtain ⟨t, ht, rfl⟩ := standard_location_iff.mp hb
  rw [spellOut_eq_iff]
  constructor
  · rintro ⟨s', t', hs', ht', hpart, hname⟩
    rw [hs] at hs'
    rw [ht] at ht'
    cases hs'
    cases ht'
    exact ⟨hpart, hname⟩
  · rintro ⟨hpart, hname⟩
    exact ⟨s, t, hs, ht, hpart, hname⟩

/-- Whatever prefix is dropped, nothing takes its place. -/
theorem fitting?_standard {name : String} {entry : String × String}
    (h : fitting? Settings.standardPrefixes name = some entry) : entry.2 = "" := by
  have hm := List.mem_of_find?_eq_some h
  simp only [Settings.standardPrefixes, List.mem_cons, List.not_mem_nil, or_false] at hm
  rcases hm with rfl | rfl | rfl | rfl <;> rfl

/-- Tidy names clash exactly if they go on alike behind the prefixes that are dropped. -/
theorem clash_iff {a b : String} (ha : TidyName a) (hb : TidyName b) :
    Clash a b ↔ ∃ p q rest, fitting? Settings.standardPrefixes a = some (p, "") ∧
      fitting? Settings.standardPrefixes b = some (q, "") ∧ a = p ++ rest ∧ b = q ++ rest := by
  constructor
  · rintro ⟨s, t, hs, ht, hpart, hname⟩
    have hspelled : spellOut ".ts" s = spellOut ".ts" t := spellOut_eq_iff.mpr ⟨hpart, hname⟩
    have hsame : s = t := (ha s hs).eq_of_spellOut_eq (hb t ht) hspelled
    obtain ⟨entry, rest, he, ha, hrest⟩ := simplify_eq_some.mp hs
    obtain ⟨other, more, ho, hb, hmore⟩ := simplify_eq_some.mp ht
    obtain ⟨p, empty⟩ := entry
    obtain ⟨q, void⟩ := other
    obtain rfl : empty = "" := fitting?_standard he
    obtain rfl : void = "" := fitting?_standard ho
    rw [String.empty_append] at hrest hmore
    obtain rfl : rest = more := hrest.symm.trans (hsame.trans hmore)
    exact ⟨p, q, rest, he, ho, ha, hb⟩
  · rintro ⟨p, q, rest, hp, hq, ha, hb⟩
    exact ⟨rest, rest, simplify_eq_some.mpr ⟨_, rest, hp, ha, (String.empty_append).symm⟩,
      simplify_eq_some.mpr ⟨_, rest, hq, hb, (String.empty_append).symm⟩, rfl, rfl⟩

end Naming

namespace Generator

variable {g : Generator}

/-- The names of every module are distinct exactly if the locations are. -/
theorem Accounts.nodup_iff {declared : List Located} {project : Project}
    (h : g.Accounts declared project) :
    (∀ m ∈ project.modules, (m.declarations.map Declaration.name?).Nodup) ↔
      (declared.map Located.location).Nodup := by
  have hm : ∀ m ∈ project.modules, (m.declarations.map Declaration.name?).Nodup ↔
      declared.Pairwise fun a b => a.location.path = m.path → b.location.path = m.path →
        a.location.name ≠ b.location.name := by
    intro m hm
    rw [h.declaration_names hm, List.Nodup, List.pairwise_map, declaredIn, List.pairwise_filter]
    simp only [decide_eq_true_eq, ne_eq, Option.some.injEq]
  have hlocations : (declared.map Located.location).Nodup ↔
      declared.Pairwise fun a b => a.location ≠ b.location := List.pairwise_map
  rw [hlocations]
  constructor
  · intro hall
    refine List.pairwise_iff_forall_sublist.mpr ?_
    intro a b hab he
    -- the module at their location has them both
    obtain ⟨m, hmem, hp⟩ := h.complete a (hab.subset (by simp))
    have hnames := List.pairwise_iff_forall_sublist.mp ((hm m hmem).mp (hall m hmem)) hab
    exact hnames hp.symm (he ▸ hp.symm) (congrArg Location.name he)
  · intro hpair m hmem
    refine (hm m hmem).mpr (hpair.imp ?_)
    intro a b hne ha hb hname
    refine hne ?_
    calc a.location = ⟨m.path, a.location.name⟩ := by rw [← ha]
      _ = b.location := by rw [hname, ← hb]

/-- When the declarations of a standard project are distinct. No module has two of one name
exactly if no two names that are declared clash, and tidy names clash only if they differ in the
prefix that is dropped. -/
theorem standard_distinctness {document : Document} {log : Log} {project : Project}
    (h : ((Generator.mk .standard document).generate.outcome { log }).1 = .ok project) :
    ∃ declared,
      ((Generator.mk .standard document).definitions.outcome { log }).1 = .ok declared ∧
      ((∀ m ∈ project.modules, (m.declarations.map Declaration.name?).Nodup) ↔
        declared.Pairwise fun a b => ¬ Naming.Clash a.qualifiedName b.qualifiedName) ∧
      ∀ a ∈ declared, ∀ b ∈ declared,
        Naming.TidyName a.qualifiedName → Naming.TidyName b.qualifiedName →
        (Naming.Clash a.qualifiedName b.qualifiedName ↔
          ∃ p q rest, Naming.fitting? Settings.standardPrefixes a.qualifiedName = some (p, "") ∧
            Naming.fitting? Settings.standardPrefixes b.qualifiedName = some (q, "") ∧
            a.qualifiedName = p ++ rest ∧ b.qualifiedName = q ++ rest) := by
  obtain ⟨declared, hd, hlist, acc⟩ := generate_returns h
  refine ⟨declared, hd, ?_, fun a _ b _ ha hb => Naming.clash_iff ha hb⟩
  rw [acc.nodup_iff, List.Nodup, List.pairwise_map]
  refine List.Pairwise.iff_of_mem ?_
  intro a b ha hb
  have hclash := Naming.clash_iff_location_eq (location_of_mem hlist ha) (location_of_mem hlist hb)
  exact hclash.not.symm

/-- Two names that differ in the prefix alone. -/
def twins : Generator :=
  ofObjects [("io.k8s.api.meta.v1.X", []), ("io.k8s.apimachinery.pkg.apis.meta.v1.X", [])]

def twinsProject : Project where
  modules := [{
    path := "meta/v1.ts"
    declarations := [.interface "X" .null [], .interface "X" .null []] }]

theorem generate_twins : (twins.generate.outcome {}).1 = .ok twinsProject := by cbv

theorem standard_distinctness_of_twins :
    (twins.generate.outcome {}).1 = .ok twinsProject ∧
      ∃ declared, (twins.definitions.outcome {}).1 = .ok declared ∧
        ((∀ m ∈ twinsProject.modules, (m.declarations.map Declaration.name?).Nodup) ↔
          declared.Pairwise fun a b => ¬ Naming.Clash a.qualifiedName b.qualifiedName) ∧
        ∀ a ∈ declared, ∀ b ∈ declared,
          Naming.TidyName a.qualifiedName → Naming.TidyName b.qualifiedName →
          (Naming.Clash a.qualifiedName b.qualifiedName ↔
            ∃ p q rest, Naming.fitting? Settings.standardPrefixes a.qualifiedName = some (p, "") ∧
              Naming.fitting? Settings.standardPrefixes b.qualifiedName = some (q, "") ∧
              a.qualifiedName = p ++ rest ∧ b.qualifiedName = q ++ rest) :=
  ⟨generate_twins, standard_distinctness generate_twins⟩

def twinsSchema : Json := .object [("definitions", .object [
  ("io.k8s.api.meta.v1.X", .object [("type", .string "object"), ("properties", .object [])]),
  ("io.k8s.apimachinery.pkg.apis.meta.v1.X",
    .object [("type", .string "object"), ("properties", .object [])])])]

/-- A schema with such names is read, and its project has a module that declares one name twice. -/
theorem twins_not_distinct :
    ofSchema .standard twinsSchema = .ok twins ∧
      (twins.generate.outcome {}).1 = .ok twinsProject ∧
      ¬ ∀ m ∈ twinsProject.modules, (m.declarations.map Declaration.name?).Nodup := by
  refine ⟨by cbv, generate_twins, ?_⟩
  intro h
  have hnodup := h _ (List.mem_singleton_self _)
  revert hnodup
  decide

end Generator

end ApiTypings
