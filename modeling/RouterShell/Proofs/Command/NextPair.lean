import RouterShell.Proofs.Command.Offering
import RouterShell.Proofs.Command.Pairs

/-!
# What comes next among pairs

Parameters are typed in pairs of a name and a value. Completion goes over the text and passes each word on to
the completer of the next one, with fewer and fewer names left; the check goes over the finished words and
enters more and more values. This module proves that the two keep the same account of the names: what is
proposed next is what the check would accept next.

## The model

`namesOf` are the names among the words of pairs, the last one also if its value is still to come, and
`NamesKnown` says that they are parameters, each at most once.

## What is proved

Completion goes by the finished words of a text, whatever is quoted in them (`candidates_tuple`). If the names
are known and no name is there twice, the other names are proposed, or the values for the last name
(`behindPairs_of_known`), and else nothing (`behindPairs_of_unknown`). A name behind accepted pairs
lacks its value exactly if it is one of those that are proposed (`ReadsPairs.lacks_value_iff`).
`tuple_offers_next` puts these together.
-/

namespace RouterShell

open Text Line SortedMap

/-! ### Maps of names and written words -/

theorem SortedMap.increasing_ofList {α : Type} (entries : List (String × α)) :
    Increasing (SortedMap.ofList entries) := by
  have hfrom : ∀ (entries : List (String × α)) (m : SortedMap String α), Increasing m →
      Increasing (entries.foldl (fun m e => SortedMap.insert e.1 e.2 m) m) := by
    intro entries
    induction entries with
    | nil => exact fun m h => h
    | cons e entries ih => exact fun m h => ih _ (increasing_insert e.1 e.2 h)
  exact hfrom entries [] List.Pairwise.nil

/-- A word can be read off its written form. -/
theorem Line.quote_injective {word word' : String} (h : quote word = quote word') : word = word' := by
  have htokens := (tokenize_quote word).symm.trans ((congrArg tokenize h).trans (tokenize_quote word'))
  exact congrArg Token.text (List.cons.inj (Except.ok.inj htokens)).1

/-! ### The names of pairs -/

/-- The names among the words of pairs: every second word, from the first one on. -/
def namesOf : List String → List String
  | [] => []
  | [name] => [name]
  | name :: _ :: args => name :: namesOf args

theorem namesOf_ofPairs (pairs : List (String × String)) : namesOf (ofPairs pairs) = pairs.map Prod.fst := by
  induction pairs with
  | nil => rfl
  | cons pair pairs ih =>
    rw [ofPairs_cons, namesOf, ih]
    rfl

theorem length_ofPairs (pairs : List (String × String)) : (ofPairs pairs).length = 2 * pairs.length := by
  induction pairs with
  | nil => rfl
  | cons pair pairs ih =>
    rw [ofPairs_cons, List.length_cons, List.length_cons, ih, List.length_cons]
    omega

namespace Complete

section Behind

variable {params : SortedMap String Completer} {net : Network} {typed : List Char} {left words : List String}

/-- Behind known names, none of them used twice, the other names are proposed, or values for the last name. -/
theorem behindPairs_of_known (hleft : ∀ name ∈ left, ∃ value, params.find? name = some value)
    (hdistinct : left.Nodup) (hnodup : (namesOf words).Nodup) (hknown : ∀ name ∈ namesOf words, name ∈ left) :
    (words.length % 2 = 0 → behindPairs params net typed left words =
        pure (proposals typed (left.filter fun name => name ∉ namesOf words))) ∧
      ∀ name, words.length % 2 = 1 → words.getLast? = some name →
        ∃ value, params.find? name = some value ∧
          behindPairs params net typed left words = value.candidates net typed := by
  induction words using namesOf.induct generalizing left with
  | case1 =>
    refine ⟨fun _ => ?_, fun name hodd => absurd hodd Nat.zero_ne_one⟩
    simp [behindPairs, namesOf]
  | case2 name =>
    refine ⟨fun heven => absurd heven Nat.one_ne_zero, fun last _ hlast => ?_⟩
    obtain rfl : name = last := Option.some.inj hlast
    have hname := hknown name List.mem_cons_self
    obtain ⟨value, hvalue⟩ := hleft name hname
    exact ⟨value, hvalue, by simp only [behindPairs, hvalue, if_pos hname]⟩
  | case3 name word args ih =>
    rw [namesOf, List.nodup_cons] at hnodup
    have hname := hknown name List.mem_cons_self
    have hothers : ∀ other ∈ namesOf args, other ∈ left.erase name := by
      intro other hother
      rw [hdistinct.mem_erase_iff]
      exact ⟨fun heq => hnodup.1 (heq ▸ hother), hknown other (List.mem_cons_of_mem name hother)⟩
    obtain ⟨heven, hodd⟩ := ih (fun n hn => hleft n (List.mem_of_mem_erase hn)) (hdistinct.erase name) hnodup.2
      hothers
    have hlength : (name :: word :: args).length % 2 = args.length % 2 := by
      rw [List.length_cons, List.length_cons]
      omega
    rw [behindPairs, if_pos hname, hlength]
    refine ⟨fun hargs => ?_, fun last hargs hlast => hodd last hargs ?_⟩
    · rw [heven hargs, hdistinct.erase_eq_filter, List.filter_filter]
      congr 2
      refine List.filter_congr fun other _ => ?_
      rw [Bool.eq_iff_iff]
      simp [namesOf, and_comm]
    · cases args with
      | nil => cases hargs
      | cons first rest => simpa using hlast

/-- Behind a name that is not known, or is used again, nothing is proposed. -/
theorem behindPairs_of_unknown (hdistinct : left.Nodup)
    (h : ¬((namesOf words).Nodup ∧ ∀ name ∈ namesOf words, name ∈ left)) :
    behindPairs params net typed left words = pure [] := by
  induction words using namesOf.induct generalizing left with
  | case1 => exact absurd ⟨List.nodup_nil, fun name hname => absurd hname List.not_mem_nil⟩ h
  | case2 name =>
    have hname : name ∉ left := by
      intro hname
      refine h ⟨List.nodup_singleton name, fun other hother => ?_⟩
      rwa [List.mem_singleton.mp hother]
    rw [behindPairs]
    split
    · rfl
    · rw [if_neg hname]
  | case3 name word args ih =>
    rw [behindPairs]
    by_cases hname : name ∈ left
    · rw [if_pos hname]
      refine ih (hdistinct.erase name) fun hrest => h ⟨?_, fun other hother => ?_⟩
      · refine List.nodup_cons.mpr ⟨fun hagain => ?_, hrest.1⟩
        exact (hdistinct.mem_erase_iff.mp (hrest.2 name hagain)).1 rfl
      · rcases List.mem_cons.mp hother with rfl | hother
        · exact hname
        · exact List.mem_of_mem_erase (hrest.2 other hother)
    · rw [if_neg hname]

end Behind

end Complete

/-! ### A name behind accepted pairs -/

section Accepted

variable {params : SortedMap String Completer} {net : Network} {named named' : SortedMap String Value}
  {pairs : List (String × String)} {runs : List Run}

/-- The check goes on behind pairs that it accepted. -/
theorem ReadsPairs.pairsFrom_append (h : ReadsPairs params net named pairs runs named') (i : Nat)
    (rest : List String) :
    (Arguments.pairsFrom params net i named (ofPairs pairs ++ rest)).value =
      (Arguments.pairsFrom params net (i + (ofPairs pairs).length) named' rest).value := by
  induction h generalizing i with
  | done named => rfl
  | pair hname hfree hvalue _ ih =>
    rw [ofPairs_cons, List.cons_append, List.cons_append, pairsFrom_pair_value hname hfree, hvalue]
    dsimp only
    rw [ih, List.length_cons, List.length_cons, Nat.add_assoc, Nat.add_comm 2]

/-- The names that have a value are those of the pairs. -/
theorem ReadsPairs.has_iff (h : ReadsPairs params net [] pairs runs named') (name : String) :
    SortedMap.has named' name = true ↔ name ∈ pairs.map Prod.fst := by
  rw [SortedMap.has]
  rcases h.find?_cases name with ⟨hnot, hfind⟩ | ⟨word, v, hword, hfind, -⟩
  · rw [hfind]
    exact iff_of_false Bool.false_ne_true hnot
  · rw [hfind]
    exact iff_of_true rfl (List.mem_map_of_mem (f := Prod.fst) ((hword word).mpr rfl))

/-- The names of accepted pairs are parameters. -/
theorem ReadsPairs.mem_keys (h : ReadsPairs params net named pairs runs named') :
    ∀ name ∈ pairs.map Prod.fst, name ∈ params.keys := by
  intro name hname
  obtain ⟨⟨name, word⟩, hmem, rfl⟩ := List.mem_map.mp hname
  obtain ⟨v, value, hfind, -⟩ := h.valueOf hmem
  exact exists_find?_iff.mp ⟨value, hfind⟩

/-- What one more name comes to behind accepted pairs. -/
theorem ReadsPairs.lacks_value_iff (h : ReadsPairs params net [] pairs runs named') (name : String) :
    (∃ e, (Arguments.pairs params net (ofPairs pairs ++ [name])).value = .error e ∧
        e.column? = some ((ofPairs pairs).length + 1) ∧ e.message = "missing value for " ++ name) ↔
      name ∈ params.keys ∧ name ∉ pairs.map Prod.fst := by
  have hvalue := h.pairsFrom_append 0 [name]
  rw [Nat.zero_add] at hvalue
  rw [Arguments.pairs, hvalue, ← h.has_iff name, ← exists_find?_iff, Arguments.pairsFrom]
  -- any other fault is that of the name itself, one place before
  have hbefore : ∀ fault : ArgumentFault,
      (ShellError.argument (ofPairs pairs).length fault).column? ≠ some ((ofPairs pairs).length + 1) :=
    fun fault hcolumn => absurd (Option.some.inj hcolumn) (Nat.ne_of_lt (Nat.lt_succ_self _))
  cases hname : params.find? name with
  | none =>
    constructor
    · rintro ⟨e, he, hcolumn, -⟩
      obtain rfl := Except.error.inj he
      exact absurd hcolumn (hbefore _)
    · rintro ⟨⟨value, hvalue⟩, -⟩
      cases hvalue
  | some value =>
    dsimp only
    by_cases hused : SortedMap.has named' name = true
    · rw [if_pos hused]
      constructor
      · rintro ⟨e, he, hcolumn, -⟩
        obtain rfl := Except.error.inj he
        exact absurd hcolumn (hbefore _)
      · exact fun h => absurd hused h.2
    · rw [if_neg hused]
      exact ⟨fun _ => ⟨⟨value, rfl⟩, hused⟩, fun _ => ⟨_, rfl, rfl, rfl⟩⟩

end Accepted

/-! ### Completion against the check -/

/-- The names among the words are parameters, each at most once. -/
def NamesKnown (params : SortedMap String Completer) (words : List String) : Prop :=
  (namesOf words).Nodup ∧ ∀ name ∈ namesOf words, name ∈ params.keys

section Next

variable {params : SortedMap String Completer} {net : Network} {text : List Char}

/-- What pairs offer for a text goes by its finished words. -/
theorem candidates_tuple (hplain : Plain (typedWord text)) :
    (Completer.tuple params).candidates net text =
      Complete.behindPairs params net (typedWord text) params.keys (finishedWords text) :=
  Complete.tupleCandidates_eq (fun _ hname => exists_find?_iff.mpr hname) hplain

/-- Behind whole pairs the names are proposed that are left and go on the typed word. -/
theorem candidates_tuple_of_even (hparams : Increasing params) (hnames : "" ∉ params.keys)
    (hplain : Plain (typedWord text)) (hknown : NamesKnown params (finishedWords text))
    (heven : (finishedWords text).length % 2 = 0) :
    ∃ names : List String, names.Pairwise (· < ·) ∧
      (∀ name, name ∈ names ↔ name ∈ params.keys ∧ name ∉ namesOf (finishedWords text) ∧
        typedWord text <+: name.toList) ∧
      (Completer.tuple params).candidates net text = pure (names.map fun name =>
        ⟨String.ofList (quote name), byteLength (typedWord text)⟩) := by
  have hbehind : Complete.behindPairs params net (typedWord text) params.keys (finishedWords text) =
      pure (proposals (typedWord text) (params.keys.filter fun name => name ∉ namesOf (finishedWords text))) :=
    (Complete.behindPairs_of_known (fun _ hname => exists_find?_iff.mpr hname) hparams.nodup hknown.1
      hknown.2).1 heven
  refine ⟨(params.keys.filter fun name => name ∉ namesOf (finishedWords text)).filter fun name =>
    name != "" && begins (String.ofList (typedWord text)) name, ?_, fun name => ?_, ?_⟩
  · exact (hparams.filter _).filter _
  · simp only [List.mem_filter, decide_eq_true_eq, Bool.and_eq_true, bne_iff_ne, begins_iff,
      String.toList_ofList, and_assoc]
    refine and_congr_right fun hname => and_congr_right fun _ => and_iff_right ?_
    rintro rfl
    exact hnames hname
  · rw [candidates_tuple hplain, hbehind]
    rfl

/-- **Completion of pairs offers what their check would accept next.** The parameters are a map in key order
whose names are not empty, and the text before the cursor is any text whose word being typed has no quotes
and no backslashes.

If the names among the finished words are parameters, each once, then behind whole pairs exactly the other
parameters are proposed that go on the typed word, in key order and each in place of that word; and behind a
name without a value it is what the completer of its values proposes for the typed word. In any other case
nothing is proposed. And if no word is being typed and the check accepts the finished words, a name is
proposed exactly if the check misses the value of that name, in the place behind it, once the name is
there. -/
theorem tuple_offers_next (hparams : Increasing params) (hnames : "" ∉ params.keys) (net : Network)
    (hplain : Plain (typedWord text)) :
    (NamesKnown params (finishedWords text) →
      ((finishedWords text).length % 2 = 0 →
        ∃ names : List String, names.Pairwise (· < ·) ∧
          (∀ name, name ∈ names ↔ name ∈ params.keys ∧ name ∉ namesOf (finishedWords text) ∧
            typedWord text <+: name.toList) ∧
          (Completer.tuple params).candidates net text = pure (names.map fun name =>
            ⟨String.ofList (quote name), byteLength (typedWord text)⟩)) ∧
      ∀ name, (finishedWords text).length % 2 = 1 → (finishedWords text).getLast? = some name →
        ∃ value, params.find? name = some value ∧
          (Completer.tuple params).candidates net text = value.candidates net (typedWord text)) ∧
    (¬NamesKnown params (finishedWords text) → (Completer.tuple params).candidates net text = pure []) ∧
    (∀ parsed, typedWord text = [] → (Arguments.pairs params net (finishedWords text)).value = .ok parsed →
      ∀ name, (⟨String.ofList (quote name), 0⟩ : Candidate) ∈
          ((Completer.tuple params).candidates net text).value ↔
        ∃ e, (Arguments.pairs params net (finishedWords text ++ [name])).value = .error e ∧
          e.column? = some ((finishedWords text).length + 1) ∧ e.message = "missing value for " ++ name) := by
  refine ⟨fun hknown => ⟨candidates_tuple_of_even hparams hnames hplain hknown, ?_⟩, fun hunknown => ?_, ?_⟩
  · intro name hodd hlast
    rw [candidates_tuple hplain]
    exact (Complete.behindPairs_of_known (fun _ hname => exists_find?_iff.mpr hname) hparams.nodup hknown.1
      hknown.2).2 name hodd hlast
  · rw [candidates_tuple hplain]
    exact Complete.behindPairs_of_unknown hparams.nodup hunknown
  · intro parsed htyped haccepted name
    obtain ⟨pairs, runs, named, hwords, -, hreads⟩ := exists_readsPairs haccepted
    have hnamesOf : namesOf (finishedWords text) = pairs.map Prod.fst := by rw [hwords, namesOf_ofPairs]
    have hknown : NamesKnown params (finishedWords text) := by
      rw [NamesKnown, hnamesOf]
      exact ⟨hreads.nodup.1, hreads.mem_keys⟩
    have heven : (finishedWords text).length % 2 = 0 := by
      rw [hwords, length_ofPairs]
      exact Nat.mul_mod_right 2 _
    obtain ⟨names, -, hmem, hcandidates⟩ :=
      @candidates_tuple_of_even params net text hparams hnames hplain hknown heven
    have hoffered : (⟨String.ofList (quote name), 0⟩ : Candidate) ∈
        ((Completer.tuple params).candidates net text).value ↔ name ∈ names := by
      rw [hcandidates, htyped]
      simp only [Logged.value_pure, List.mem_map, byteLength_nil, Candidate.mk.injEq, and_true]
      constructor
      · rintro ⟨name', hname', hquote⟩
        exact quote_injective (String.ofList_injective hquote) ▸ hname'
      · exact fun hname => ⟨name, hname, rfl⟩
    rw [hoffered, hmem, hnamesOf, htyped, hwords, hreads.lacks_value_iff]
    exact and_congr_right fun _ => and_iff_left List.nil_prefix

/-- Behind `dev "a"`, whose value is taken as it stands, `via` is proposed, and the check misses its value. -/
theorem via_offered_behind_dev :
    let params : SortedMap String Completer := .ofList [("dev", .suggesting ["eth0"]), ("via", .free)]
    let net : Network := ⟨.memory .empty [], none⟩
    let text := " dev \"a\"  ".toList
    Increasing params ∧ "" ∉ params.keys ∧ Plain (typedWord text) ∧
      finishedWords text = ["dev", "\"a\""] ∧
      (⟨"via", 0⟩ : Candidate) ∈ ((Completer.tuple params).candidates net text).value ∧
      ∃ e, (Arguments.pairs params net ["dev", "\"a\"", "via"]).value = .error e ∧
        e.column? = some 3 ∧ e.message = "missing value for via" := by
  intro params net text
  have hparams : Increasing params := increasing_ofList _
  have hnames : "" ∉ params.keys := by decide
  have hplain : Plain (typedWord text) := by decide
  have hwords : finishedWords text = ["dev", "\"a\""] := by decide
  have hlacks : ∃ e, (Arguments.pairs params net ["dev", "\"a\"", "via"]).value = .error e ∧
      e.column? = some 3 ∧ e.message = "missing value for via" := ⟨_, rfl, rfl, rfl⟩
  have key := (tuple_offers_next hparams hnames net hplain).2.2
  rw [hwords] at key
  exact ⟨hparams, hnames, hplain, hwords, (key _ (by decide) rfl "via").mpr hlacks, hlacks⟩

end Next

end RouterShell
