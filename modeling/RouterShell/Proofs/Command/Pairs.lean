import Mathlib.Data.List.Perm.Basic
import RouterShell.Proofs.Command.Refusal

/-!
# Arguments in pairs

Some commands take parameters, each a name and a word behind it, in any order. This module says what such
arguments come to, and that their order has no part in it.

## The model

`ReadsPairs` goes through pairs one after the other and enters the value of each word under its name. It is
what the check of pairs does (`exists_readsPairs`, `ReadsPairs.pairsFrom_eq`), without the faults that the
check may find.

## What is proved

The values that are entered are those of the pairs (`ReadsPairs.find?_iff`), each name is there once
(`ReadsPairs.nodup`), and pairs in another order enter the same values and run the same programs for them,
if there is only one parameter whose values programs are asked for (`ReadsPairs.perm`).
-/

namespace RouterShell

open SortedMap

/-- Names and words as arguments. -/
def ofPairs (pairs : List (String × String)) : List String :=
  pairs.flatMap fun pair => [pair.1, pair.2]

theorem ofPairs_cons (name word : String) (pairs : List (String × String)) :
    ofPairs ((name, word) :: pairs) = name :: word :: ofPairs pairs := rfl

theorem ofPairs_injective : Function.Injective ofPairs := by
  intro pairs pairs' h
  induction pairs generalizing pairs' with
  | nil =>
    cases pairs' with
    | nil => rfl
    | cons _ _ => cases h
  | cons pair pairs ih =>
    cases pairs' with
    | nil => cases h
    | cons pair' pairs' =>
      injection h with hname h
      injection h with hword h
      rw [ih h, Prod.ext hname hword]

/-- A word stands for a value of a parameter. -/
def ValueOf (params : SortedMap String Completer) (net : Network) (name word : String) (v : Value) :
    Prop :=
  ∃ value, params.find? name = some value ∧ (value.parse net word).value = .ok v

/-- Entering the values of pairs leads from the values of other names to those of all, and runs programs
for that. -/
inductive ReadsPairs (params : SortedMap String Completer) (net : Network) :
    SortedMap String Value → List (String × String) → List Run → SortedMap String Value → Prop where
  /-- There are no more pairs. -/
  | done (named : SortedMap String Value) : ReadsPairs params net named [] [] named
  /-- The value of a name that has none so far is entered. -/
  | pair {named named' : SortedMap String Value} {name word : String} {value : Completer} {v : Value}
      {pairs : List (String × String)} {runs : List Run} :
      params.find? name = some value → SortedMap.has named name = false →
      (value.parse net word).value = .ok v →
      ReadsPairs params net (SortedMap.insert name v named) pairs runs named' →
      ReadsPairs params net named ((name, word) :: pairs) ((value.parse net word).runs ++ runs) named'

section Pairs

variable {params : SortedMap String Completer} {net : Network} {named named' : SortedMap String Value}
  {pairs pairs' : List (String × String)} {runs : List Run}

/-! ### What the check does -/

/-- Pairs that can be entered are accepted. -/
theorem ReadsPairs.pairsFrom_eq (h : ReadsPairs params net named pairs runs named') (i : Nat) :
    Arguments.pairsFrom params net i named (ofPairs pairs) = ⟨.ok ⟨none, named'⟩, runs⟩ := by
  induction h generalizing i with
  | done named => rfl
  | @pair named named' name word value v pairs runs hname hfree hvalue _ ih =>
    rw [ofPairs_cons, Arguments.pairsFrom, hname]
    simp only [hfree, Bool.false_eq_true, if_false]
    show Logged.mk _ _ = Logged.mk _ _
    rw [hvalue]
    dsimp only
    rw [ih]

/-- Arguments that are accepted are pairs that can be entered. -/
theorem exists_readsPairs {i : Nat} {args : List String} {parsed : ParsedArgs}
    (h : (Arguments.pairsFrom params net i named args).value = .ok parsed) :
    ∃ pairs runs named', args = ofPairs pairs ∧ parsed = ⟨none, named'⟩ ∧
      ReadsPairs params net named pairs runs named' := by
  induction i, named, args using Arguments.pairsFrom.induct params with
  | case1 i named => exact ⟨[], [], named, rfl, (Except.ok.inj h).symm, .done named⟩
  | case2 i named name rest hname =>
    rw [Arguments.pairsFrom, hname] at h
    cases h
  | case3 i named name rest value hname hgiven =>
    rw [Arguments.pairsFrom, hname] at h
    simp only [hgiven, if_true] at h
    cases h
  | case4 i named name value hname hgiven =>
    rw [Arguments.pairsFrom, hname] at h
    simp only [hgiven] at h
    cases h
  | case5 i named name value hname hgiven word rest ih =>
    have hfree := Bool.eq_false_iff.mpr hgiven
    rw [pairsFrom_pair_value hname hfree] at h
    cases hvalue : (value.parse net word).value with
    | error why =>
      rw [hvalue] at h
      cases h
    | ok v =>
      rw [hvalue] at h
      obtain ⟨pairs, runs, named', rfl, hparsed, hreads⟩ := ih v h
      exact ⟨(name, word) :: pairs, _, named', rfl, hparsed, .pair hname hfree hvalue hreads⟩

/-- Pairs are accepted if they can be entered. -/
theorem accepts_ofPairs_iff : Accepts (Arguments.pairs params net (ofPairs pairs)) ↔
    ∃ runs named, ReadsPairs params net [] pairs runs named := by
  constructor
  · rintro ⟨parsed, hparsed⟩
    obtain ⟨pairs', runs, named, hargs, -, hreads⟩ := exists_readsPairs hparsed
    obtain rfl := ofPairs_injective hargs
    exact ⟨runs, named, hreads⟩
  · rintro ⟨runs, named, hreads⟩
    exact ⟨⟨none, named⟩, congrArg Logged.value (hreads.pairsFrom_eq 0)⟩

/-! ### What is entered -/

/-- Each name is there once, and had no value before. -/
theorem ReadsPairs.nodup (h : ReadsPairs params net named pairs runs named') :
    (pairs.map Prod.fst).Nodup ∧ ∀ name ∈ pairs.map Prod.fst, SortedMap.has named name = false := by
  induction h with
  | done named => exact ⟨List.nodup_nil, fun _ h => absurd h List.not_mem_nil⟩
  | @pair named named' name word value v pairs runs _ hfree _ _ ih =>
    obtain ⟨hnodup, hothers⟩ := ih
    have hnot : name ∉ pairs.map Prod.fst := by
      intro hmem
      have hhas := hothers name hmem
      rw [has_insert_self] at hhas
      cases hhas
    refine ⟨List.nodup_cons.mpr ⟨hnot, hnodup⟩, fun other hother => ?_⟩
    rcases List.mem_cons.mp hother with rfl | hother
    · exact hfree
    · have hne : name ≠ other := fun heq => hnot (heq ▸ hother)
      rw [← has_insert_of_ne hne v named]
      exact hothers other hother

/-- What is entered are the values of the pairs. -/
theorem ReadsPairs.find?_iff (h : ReadsPairs params net named pairs runs named') {name : String}
    {v : Value} :
    named'.find? name = some v ↔
      named.find? name = some v ∨ ∃ word, (name, word) ∈ pairs ∧ ValueOf params net name word v := by
  induction h with
  | done named => simp
  | @pair named named' first word value u pairs runs hname hfree hvalue _ ih =>
    have hnone : named.find? first = none :=
      Option.isNone_iff_eq_none.mp (Option.isSome_eq_false_iff.mp hfree)
    rw [ih, find?_insert]
    by_cases heq : first = name
    · subst heq
      rw [if_pos rfl, hnone]
      constructor
      · rintro (hu | ⟨word', hmem, hv⟩)
        · obtain rfl := Option.some.inj hu
          exact Or.inr ⟨word, List.mem_cons_self, value, hname, hvalue⟩
        · exact Or.inr ⟨word', List.mem_cons_of_mem _ hmem, hv⟩
      · rintro (hu | ⟨word', hmem, hv⟩)
        · cases hu
        · rcases List.mem_cons.mp hmem with hhead | hmem
          · obtain ⟨value', hname', hvalue'⟩ := hv
            obtain rfl := Option.some.inj (hname.symm.trans hname')
            obtain rfl := (Prod.mk.inj hhead).2
            exact Or.inl (congrArg some (Except.ok.inj (hvalue.symm.trans hvalue')))
          · exact Or.inr ⟨word', hmem, hv⟩
    · rw [if_neg heq]
      refine or_congr_right (exists_congr fun word' => and_congr_left fun _ => ?_)
      simp [Ne.symm heq]

/-- Each word stands for a value of its parameter. -/
theorem ReadsPairs.valueOf (h : ReadsPairs params net named pairs runs named') {name word : String}
    (hmem : (name, word) ∈ pairs) : ∃ v, ValueOf params net name word v := by
  induction h with
  | done named => exact absurd hmem List.not_mem_nil
  | pair hname hfree hvalue _ ih =>
    rcases List.mem_cons.mp hmem with hhead | hmem
    · obtain ⟨rfl, rfl⟩ := Prod.mk.inj hhead
      exact ⟨_, _, hname, hvalue⟩
    · exact ih hmem

/-- A name that is not among the pairs has no value, and a name that is has the value of its only word. -/
theorem ReadsPairs.find?_cases (h : ReadsPairs params net [] pairs runs named') (name : String) :
    (name ∉ pairs.map Prod.fst ∧ named'.find? name = none) ∨
      ∃ word v, (∀ word', (name, word') ∈ pairs ↔ word' = word) ∧ named'.find? name = some v ∧
        ValueOf params net name word v := by
  by_cases hname : name ∈ pairs.map Prod.fst
  · obtain ⟨⟨name, word⟩, hmem, rfl⟩ := List.mem_map.mp hname
    obtain ⟨v, hv⟩ := h.valueOf hmem
    refine Or.inr ⟨word, v, fun word' => ⟨fun hmem' => ?_, fun heq => heq ▸ hmem⟩,
      h.find?_iff.mpr (Or.inr ⟨word, hmem, hv⟩), hv⟩
    exact congrArg Prod.snd (List.inj_on_of_nodup_map h.nodup.1 hmem' hmem rfl)
  · refine Or.inl ⟨hname, Option.eq_none_iff_forall_ne_some.mpr fun v hfind => ?_⟩
    rcases h.find?_iff.mp hfind with hnil | ⟨word, hmem, -⟩
    · cases hnil
    · exact hname (List.mem_map_of_mem (f := Prod.fst) hmem)

/-- Pairs can be entered if their names are distinct, none of them has a value, and each word stands for a
value of its parameter. -/
theorem exists_readsPairs_of_nodup (hnodup : (pairs.map Prod.fst).Nodup)
    (hfree : ∀ name ∈ pairs.map Prod.fst, SortedMap.has named name = false)
    (hvalues : ∀ name word, (name, word) ∈ pairs → ∃ v, ValueOf params net name word v) :
    ∃ runs named', ReadsPairs params net named pairs runs named' := by
  induction pairs generalizing named with
  | nil => exact ⟨[], named, .done named⟩
  | cons pair pairs ih =>
    obtain ⟨name, word⟩ := pair
    obtain ⟨hnot, hnodup⟩ := List.nodup_cons.mp hnodup
    obtain ⟨v, value, hname, hvalue⟩ := hvalues name word List.mem_cons_self
    have hfree' : ∀ other ∈ pairs.map Prod.fst,
        SortedMap.has (SortedMap.insert name v named) other = false := by
      intro other hother
      have hne : name ≠ other := fun heq => hnot (heq ▸ hother)
      rw [has_insert_of_ne hne]
      exact hfree other (List.mem_cons_of_mem _ hother)
    obtain ⟨runs, named', hreads⟩ :=
      ih hnodup hfree' fun name word hmem => hvalues name word (List.mem_cons_of_mem _ hmem)
    exact ⟨_, named', .pair hname (hfree name List.mem_cons_self) hvalue hreads⟩

/-! ### Their order -/

/-- Pairs in another order enter the same values, and run the same programs for them if these are all for
the values of one name. -/
theorem ReadsPairs.perm {asking : String} (h : ReadsPairs params net named pairs runs named')
    (hasking : ∀ name value, params.find? name = some value → name ≠ asking →
      ∀ word, (value.parse net word).runs = [])
    (hpairs : pairs.Perm pairs') (hnamed : Increasing named) :
    ReadsPairs params net named pairs' runs named' := by
  induction hpairs generalizing named runs with
  | nil => exact h
  | cons pair _ ih =>
    cases h with
    | pair hname hfree hvalue hrest =>
      exact .pair hname hfree hvalue (ih hrest (increasing_insert _ _ hnamed))
  | swap first second pairs =>
    cases h with
    | @pair _ _ name₂ word₂ value₂ v₂ _ _ hname₂ hfree₂ hvalue₂ hrest =>
      cases hrest with
      | @pair _ _ name₁ word₁ value₁ v₁ _ runs hname₁ hfree₁ hvalue₁ hrest =>
        -- the second name is another one, as the first one has its value by then
        have hne : name₂ ≠ name₁ := by
          rintro rfl
          rw [has_insert_self] at hfree₁
          cases hfree₁
        rw [has_insert_of_ne hne] at hfree₁
        have hfree₂' : SortedMap.has (SortedMap.insert name₁ v₁ named) name₂ = false :=
          (has_insert_of_ne hne.symm v₁ named).trans hfree₂
        rw [SortedMap.insert_comm hne.symm v₁ v₂ hnamed] at hrest
        have hruns : (value₂.parse net word₂).runs ++ ((value₁.parse net word₁).runs ++ runs) =
            (value₁.parse net word₁).runs ++ ((value₂.parse net word₂).runs ++ runs) := by
          by_cases hasks : name₂ = asking
          · rw [hasking name₁ value₁ hname₁ (hasks ▸ hne.symm) word₁]
            rfl
          · rw [hasking name₂ value₂ hname₂ hasks word₂]
            rfl
        rw [hruns]
        exact .pair hname₁ hfree₁ hvalue₁ (.pair hname₂ hfree₂' hvalue₂ hrest)
  | trans _ _ ih ih' => exact ih' (ih h hnamed) hnamed

end Pairs

end RouterShell
