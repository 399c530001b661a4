import RouterShell.Proofs.Command.NextPair

/-!
# What is wrong with arguments in pairs

The check of parameters goes through the pairs and stops at the first argument that it cannot take. Four
kinds of faults compete for being the first one, within a pair and across pairs, and the place of the one that
is reported becomes a place on the screen. This module gives the faults of arguments by themselves, each with
its place, and proves that the check reports the leftmost of them and accepts what has none.

## The model

`PairFault` says what may be wrong with arguments and where. It compares a name with all the names before it
and a word with the parameter of its name, and knows nothing of the order in which the check looks at them.
`WellPaired` says what arguments in pairs should be. `PairStop` is where the check comes to a stop behind the
pairs whose values it has entered.

## What is proved

All arguments are pairs that can be entered, and behind these the end or a stop (`exists_pairStop`). There is
no fault in pairs that can be entered (`ReadsPairs.not_pairFault`), and a stop is one (`PairStop.pairFault`), so
it is the leftmost one (`PairStop.leftmost`). Arguments without any fault are well paired
(`wellPaired_iff`). `pairs_accepted_or_leftmost_fault` puts these together.
-/

namespace RouterShell

open SortedMap

/-- A fault of arguments in pairs, and the place where it is. -/
inductive PairFault (params : SortedMap String Completer) (net : Network) (args : List String) :
    Nat → ArgumentFault → Prop where
  /-- A name is that of no parameter. -/
  | unknown {i : Nat} {name : String} :
      args[2 * i]? = some name → name ∉ params.keys →
      PairFault params net args (2 * i) (.unknownParameter name)
  /-- A name is given again. -/
  | repeated {i j : Nat} {name : String} :
      args[2 * i]? = some name → j < i → args[2 * j]? = some name →
      PairFault params net args (2 * i) (.repeatedParameter name)
  /-- The last name lacks its value, in the place behind all arguments. -/
  | missing {i : Nat} {name : String} :
      args[2 * i]? = some name → args.length = 2 * i + 1 →
      PairFault params net args args.length (.missingValue name)
  /-- The completer of a name turns down its value. -/
  | rejected {i : Nat} {name word : String} {value : Completer} {why : Rejection} :
      args[2 * i]? = some name → args[2 * i + 1]? = some word → params.find? name = some value →
      (value.parse net word).value = .error why →
      PairFault params net args (2 * i + 1) (.rejected why)

/-- Arguments are names of parameters, each once, and behind each one a word that stands for a value of it. -/
structure WellPaired (params : SortedMap String Completer) (net : Network) (args : List String) : Prop where
  /-- Behind every name there is a word. -/
  even : args.length % 2 = 0
  /-- Every name is that of a parameter. -/
  known (i : Nat) (name : String) : args[2 * i]? = some name → name ∈ params.keys
  /-- No name is given twice. -/
  distinct (i j : Nat) (name : String) : args[2 * i]? = some name → args[2 * j]? = some name → i = j
  /-- Every word stands for a value of its parameter. -/
  accepted (i : Nat) (name word : String) : args[2 * i]? = some name → args[2 * i + 1]? = some word →
    ∃ v, ValueOf params net name word v

/-- The check stops at an argument behind pairs whose values are entered; places are counted from there. -/
inductive PairStop (params : SortedMap String Completer) (net : Network) (named : SortedMap String Value) :
    List String → Nat → ArgumentFault → Prop where
  /-- The next name is that of no parameter. -/
  | unknown {name : String} {rest : List String} : params.find? name = none →
      PairStop params net named (name :: rest) 0 (.unknownParameter name)
  /-- The next name has its value already. -/
  | repeated {name : String} {value : Completer} {rest : List String} : params.find? name = some value →
      SortedMap.has named name = true → PairStop params net named (name :: rest) 0 (.repeatedParameter name)
  /-- Nothing stands behind the next name. -/
  | missing {name : String} {value : Completer} : params.find? name = some value →
      SortedMap.has named name = false → PairStop params net named [name] 1 (.missingValue name)
  /-- What stands behind the next name is turned down. -/
  | rejected {name word : String} {value : Completer} {why : Rejection} {rest : List String} :
      params.find? name = some value → SortedMap.has named name = false →
      (value.parse net word).value = .error why →
      PairStop params net named (name :: word :: rest) 1 (.rejected why)

section Faults

variable {params : SortedMap String Completer} {net : Network} {named named' : SortedMap String Value}
  {pairs : List (String × String)} {runs : List Run} {args rest : List String} {k column : Nat}
  {fault : ArgumentFault}

/-! ### Faults by their places -/

/-- What may be wrong with a name. -/
theorem PairFault.at_name {i : Nat} (h : PairFault params net args column fault)
    (hcolumn : column = 2 * i) :
    ∃ name, args[2 * i]? = some name ∧
      (fault = .unknownParameter name ∧ name ∉ params.keys ∨
        fault = .repeatedParameter name ∧ ∃ j < i, args[2 * j]? = some name) := by
  cases h with
  | @unknown i' name hname hunknown =>
    obtain rfl : i = i' := by omega
    exact ⟨name, hname, Or.inl ⟨rfl, hunknown⟩⟩
  | @repeated i' j name hname hj hagain =>
    obtain rfl : i = i' := by omega
    exact ⟨name, hname, Or.inr ⟨rfl, j, hj, hagain⟩⟩
  | missing _ _ => omega
  | rejected _ _ _ _ => omega

/-- What may be wrong in the place behind a name. -/
theorem PairFault.at_word {i : Nat} (h : PairFault params net args column fault)
    (hcolumn : column = 2 * i + 1) :
    ∃ name, args[2 * i]? = some name ∧
      (fault = .missingValue name ∧ args.length = 2 * i + 1 ∨
        ∃ word value why, fault = .rejected why ∧ args[2 * i + 1]? = some word ∧
          params.find? name = some value ∧ (value.parse net word).value = .error why) := by
  cases h with
  | unknown _ _ => omega
  | repeated _ _ _ => omega
  | @missing i' name hname hlength =>
    obtain rfl : i = i' := by omega
    exact ⟨name, hname, Or.inl ⟨rfl, hlength⟩⟩
  | @rejected i' name word value why hname hword hfind hvalue =>
    obtain rfl : i = i' := by omega
    exact ⟨name, hname, Or.inr ⟨word, value, why, rfl, hword, hfind, hvalue⟩⟩

/-- At the leftmost place there is one fault only. -/
theorem PairFault.unique {fault' : ArgumentFault} (h : PairFault params net args column fault)
    (h' : PairFault params net args column fault')
    (hleft : ∀ column' < column, ∀ fault', ¬PairFault params net args column' fault') : fault = fault' := by
  -- a name that is unknown where it is given again is unknown where it was given first
  have hfirst : ∀ {i j : Nat} {name : String}, column = 2 * i → j < i → args[2 * j]? = some name →
      name ∈ params.keys := by
    intro i j name hcolumn hj hname
    by_contra hunknown
    exact hleft (2 * j) (by omega) _ (.unknown hname hunknown)
  obtain ⟨i, rfl | rfl⟩ : ∃ i, column = 2 * i ∨ column = 2 * i + 1 := ⟨column / 2, by omega⟩
  · obtain ⟨name, hname, hfault⟩ := h.at_name rfl
    obtain ⟨name', hname', hfault'⟩ := h'.at_name rfl
    obtain rfl := Option.some.inj (hname.symm.trans hname')
    rcases hfault with ⟨rfl, hunknown⟩ | ⟨rfl, j, hj, hagain⟩
    · rcases hfault' with ⟨rfl, -⟩ | ⟨rfl, j, hj, hagain⟩
      · rfl
      · exact absurd (hfirst rfl hj hagain) hunknown
    · rcases hfault' with ⟨rfl, hunknown⟩ | ⟨rfl, -⟩
      · exact absurd (hfirst rfl hj hagain) hunknown
      · rfl
  · obtain ⟨name, hname, hfault⟩ := h.at_word rfl
    obtain ⟨name', hname', hfault'⟩ := h'.at_word rfl
    obtain rfl := Option.some.inj (hname.symm.trans hname')
    rcases hfault with ⟨rfl, hlength⟩ | ⟨word, value, why, rfl, hword, hfind, hvalue⟩
    · rcases hfault' with ⟨rfl, -⟩ | ⟨word, -, -, -, hword, -, -⟩
      · rfl
      · have hlt := (List.getElem?_eq_some_iff.mp hword).1
        omega
    · rcases hfault' with ⟨rfl, hlength⟩ | ⟨word', value', why', rfl, hword', hfind', hvalue'⟩
      · have hlt := (List.getElem?_eq_some_iff.mp hword).1
        omega
      · obtain rfl := Option.some.inj (hword.symm.trans hword')
        obtain rfl := Option.some.inj (hfind.symm.trans hfind')
        exact congrArg ArgumentFault.rejected (Except.error.inj (hvalue.symm.trans hvalue'))

/-- There is one leftmost fault only. -/
theorem PairFault.eq_of_leftmost {column' : Nat} {fault' : ArgumentFault}
    (h : PairFault params net args column fault)
    (hleft : ∀ before < column, ∀ fault, ¬PairFault params net args before fault)
    (h' : PairFault params net args column' fault')
    (hleft' : ∀ before < column', ∀ fault, ¬PairFault params net args before fault) :
    column = column' ∧ fault = fault' := by
  -- of two leftmost places neither is before the other
  obtain rfl : column = column' := by
    rcases Nat.lt_trichotomy column column' with hlt | heq | hgt
    · exact absurd h (hleft' column hlt fault)
    · exact heq
    · exact absurd h' (hleft column' hgt fault')
  exact ⟨rfl, h.unique h' hleft⟩

/-- Arguments are well paired if there is no fault in them. -/
theorem wellPaired_iff :
    WellPaired params net args ↔ ∀ column fault, ¬PairFault params net args column fault := by
  constructor
  · intro h column fault hfault
    cases hfault with
    | unknown hname hunknown => exact hunknown (h.known _ _ hname)
    | repeated hname hj hagain => exact absurd (h.distinct _ _ _ hagain hname) (Nat.ne_of_lt hj)
    | missing _ hlength =>
      have heven := h.even
      omega
    | rejected hname hword hfind hvalue =>
      obtain ⟨v, value, hfind', hvalue'⟩ := h.accepted _ _ _ hname hword
      obtain rfl := Option.some.inj (hfind.symm.trans hfind')
      cases hvalue.symm.trans hvalue'
  · intro h
    have hknown : ∀ i name, args[2 * i]? = some name → name ∈ params.keys := by
      intro i name hname
      by_contra hunknown
      exact h _ _ (.unknown hname hunknown)
    refine ⟨?_, hknown, fun i j name hi hj => ?_, fun i name word hname hword => ?_⟩
    · by_contra hodd
      have hlength : args.length = 2 * (args.length / 2) + 1 := by omega
      have hlast := List.getElem?_eq_getElem (by omega : 2 * (args.length / 2) < args.length)
      exact h _ _ (.missing hlast hlength)
    · rcases Nat.lt_trichotomy i j with hlt | heq | hgt
      · exact absurd (.repeated hj hlt hi) (h _ _)
      · exact heq
      · exact absurd (.repeated hi hgt hj) (h _ _)
    · obtain ⟨value, hfind⟩ := exists_find?_iff.mpr (hknown i name hname)
      cases hvalue : (value.parse net word).value with
      | ok v => exact ⟨v, value, hfind, hvalue⟩
      | error why => exact absurd (.rejected hname hword hfind hvalue) (h _ _)

/-! ### Where the check stops -/

/-- The check reports the place where it stops. -/
theorem PairStop.pairsFrom_eq (h : PairStop params net named rest k fault) (i : Nat) :
    (Arguments.pairsFrom params net i named rest).value = .error (.argument (i + k) fault) := by
  cases h with
  | unknown hname =>
    rw [Arguments.pairsFrom, hname]
    rfl
  | repeated hname hgiven =>
    rw [Arguments.pairsFrom, hname]
    exact congrArg Logged.value (if_pos hgiven)
  | missing hname hfree =>
    rw [Arguments.pairsFrom, hname]
    exact congrArg Logged.value (if_neg (Bool.eq_false_iff.mp hfree))
  | rejected hname hfree hvalue => rw [pairsFrom_pair_value hname hfree, hvalue]

/-- Arguments are pairs that can be entered, and behind these there is nothing or the check stops. -/
theorem exists_pairStop (params : SortedMap String Completer) (net : Network)
    (named : SortedMap String Value) (args : List String) :
    ∃ pairs runs named' rest, args = ofPairs pairs ++ rest ∧
      ReadsPairs params net named pairs runs named' ∧
      (rest = [] ∨ ∃ k fault, PairStop params net named' rest k fault) := by
  induction args using namesOf.induct generalizing named with
  | case1 => exact ⟨[], [], named, [], rfl, .done named, Or.inl rfl⟩
  | case2 name =>
    refine ⟨[], [], named, [name], rfl, .done named, Or.inr ?_⟩
    cases hname : params.find? name with
    | none => exact ⟨_, _, .unknown hname⟩
    | some value =>
      cases hgiven : SortedMap.has named name with
      | true => exact ⟨_, _, .repeated hname hgiven⟩
      | false => exact ⟨_, _, .missing hname hgiven⟩
  | case3 name word args ih =>
    have hstop : (∃ k fault, PairStop params net named (name :: word :: args) k fault) →
        ∃ pairs runs named' rest, name :: word :: args = ofPairs pairs ++ rest ∧
          ReadsPairs params net named pairs runs named' ∧
          (rest = [] ∨ ∃ k fault, PairStop params net named' rest k fault) :=
      fun h => ⟨[], [], named, _, rfl, .done named, Or.inr h⟩
    cases hname : params.find? name with
    | none => exact hstop ⟨_, _, .unknown hname⟩
    | some value =>
      cases hgiven : SortedMap.has named name with
      | true => exact hstop ⟨_, _, .repeated hname hgiven⟩
      | false =>
        cases hvalue : (value.parse net word).value with
        | error why => exact hstop ⟨_, _, .rejected hname hgiven hvalue⟩
        | ok v =>
          obtain ⟨pairs, runs, named', rest, rfl, hreads, hrest⟩ := ih (SortedMap.insert name v named)
          exact ⟨(name, word) :: pairs, _, named', rest, rfl, .pair hname hgiven hvalue hreads, hrest⟩

/-! ### Arguments by their places -/

/-- The names of pairs stand at even places, and the words behind them. -/
theorem getElem?_ofPairs (pairs : List (String × String)) (i : Nat) :
    (ofPairs pairs)[2 * i]? = (pairs.map Prod.fst)[i]? ∧
      (ofPairs pairs)[2 * i + 1]? = (pairs.map Prod.snd)[i]? := by
  induction pairs generalizing i with
  | nil => exact ⟨rfl, rfl⟩
  | cons pair pairs ih =>
    cases i with
    | zero => exact ⟨rfl, rfl⟩
    | succ i => exact ih i

/-- A name and the word behind it are a pair. -/
theorem mem_pairs_iff {name word : String} : (name, word) ∈ pairs ↔
    ∃ i, (ofPairs pairs)[2 * i]? = some name ∧ (ofPairs pairs)[2 * i + 1]? = some word := by
  simp only [getElem?_ofPairs, List.mem_iff_getElem?, List.getElem?_map]
  refine exists_congr fun i => ?_
  cases pairs[i]? with
  | none => simp
  | some pair => simp [Prod.ext_iff]

/-- The value of a name is that of the word behind it. -/
theorem ReadsPairs.find?_places (h : ReadsPairs params net [] pairs runs named) (name : String)
    (v : Value) : named.find? name = some v ↔
      ∃ i word, (ofPairs pairs)[2 * i]? = some name ∧ (ofPairs pairs)[2 * i + 1]? = some word ∧
        ValueOf params net name word v := by
  rw [h.find?_iff, find?_nil]
  constructor
  · rintro (hnone | ⟨word, hmem, hv⟩)
    · cases hnone
    · obtain ⟨i, hname, hword⟩ := mem_pairs_iff.mp hmem
      exact ⟨i, word, hname, hword, hv⟩
  · rintro ⟨i, word, hname, hword, hv⟩
    exact Or.inr ⟨word, mem_pairs_iff.mpr ⟨i, hname, hword⟩, hv⟩

/-- Behind pairs the other arguments follow. -/
theorem getElem?_behind_ofPairs (pairs : List (String × String)) (rest : List String) (k : Nat) :
    (ofPairs pairs ++ rest)[2 * pairs.length + k]? = rest[k]? := by
  rw [← length_ofPairs, List.getElem?_append_right (Nat.le_add_right _ _), Nat.add_sub_cancel_left]

/-! ### The leftmost fault -/

/-- Pairs that can be entered are as they should be. -/
theorem ReadsPairs.wellPaired (h : ReadsPairs params net [] pairs runs named) :
    WellPaired params net (ofPairs pairs) where
  even := by
    rw [length_ofPairs]
    exact Nat.mul_mod_right 2 _
  known i name hname := by
    rw [(getElem?_ofPairs pairs i).1] at hname
    exact h.mem_keys name (List.mem_of_getElem? hname)
  distinct i j name hi hj := by
    rw [(getElem?_ofPairs pairs _).1] at hi hj
    exact (List.getElem?_inj (List.getElem?_eq_some_iff.mp hi).1 h.nodup.1).mp (hi.trans hj.symm)
  accepted i name word hname hword := h.valueOf (mem_pairs_iff.mpr ⟨i, hname, hword⟩)

/-- A fault has nothing to do with what stands behind it. -/
theorem PairFault.of_append (h : PairFault params net (args ++ rest) column fault)
    (hcolumn : column < args.length) : PairFault params net args column fault := by
  cases h with
  | unknown hname hunknown =>
    rw [List.getElem?_append_left hcolumn] at hname
    exact .unknown hname hunknown
  | repeated hname hj hagain =>
    rw [List.getElem?_append_left hcolumn] at hname
    rw [List.getElem?_append_left (by omega)] at hagain
    exact .repeated hname hj hagain
  | missing _ _ =>
    rw [List.length_append] at hcolumn
    omega
  | rejected hname hword hfind hvalue =>
    rw [List.getElem?_append_left (by omega)] at hname
    rw [List.getElem?_append_left hcolumn] at hword
    exact .rejected hname hword hfind hvalue

/-- There is no fault in pairs that can be entered. -/
theorem ReadsPairs.not_pairFault (h : ReadsPairs params net [] pairs runs named)
    (hcolumn : column < 2 * pairs.length) : ¬PairFault params net (ofPairs pairs ++ rest) column fault := by
  rw [← length_ofPairs] at hcolumn
  exact fun hfault => wellPaired_iff.mp h.wellPaired _ _ (hfault.of_append hcolumn)

/-- Where the check stops behind pairs there is a fault. -/
theorem PairStop.pairFault (hreads : ReadsPairs params net [] pairs runs named)
    (h : PairStop params net named rest k fault) :
    PairFault params net (ofPairs pairs ++ rest) (2 * pairs.length + k) fault := by
  have hat := getElem?_behind_ofPairs pairs rest
  cases h with
  | unknown hname =>
    refine .unknown (hat 0) fun hmem => ?_
    obtain ⟨value, hvalue⟩ := exists_find?_iff.mpr hmem
    cases hname.symm.trans hvalue
  | @repeated name value rest hname hgiven =>
    obtain ⟨j, hj⟩ := List.mem_iff_getElem?.mp ((hreads.has_iff name).mp hgiven)
    have hlt : j < pairs.length := by
      have hlt := (List.getElem?_eq_some_iff.mp hj).1
      rwa [List.length_map] at hlt
    have hbefore : (ofPairs pairs ++ name :: rest)[2 * j]? = some name := by
      rw [List.getElem?_append_left (by rw [length_ofPairs]; omega), (getElem?_ofPairs pairs j).1, hj]
    exact .repeated (hat 0) hlt hbefore
  | @missing name value hname hfree =>
    have hlength : (ofPairs pairs ++ [name]).length = 2 * pairs.length + 1 := by
      rw [List.length_append, length_ofPairs, List.length_singleton]
    have hmissing : PairFault params net (ofPairs pairs ++ [name]) _ (.missingValue name) :=
      .missing (hat 0) hlength
    rwa [hlength] at hmissing
  | rejected hname hfree hvalue => exact .rejected (hat 0) (hat 1) hname hvalue

/-- Nothing is wrong with the name if the check stops behind it. -/
theorem PairStop.not_at_name (hreads : ReadsPairs params net [] pairs runs named)
    (h : PairStop params net named rest 1 fault) {fault' : ArgumentFault} :
    ¬PairFault params net (ofPairs pairs ++ rest) (2 * pairs.length) fault' := by
  obtain ⟨name, value, hhead, hname, hfree⟩ : ∃ name value, rest[0]? = some name ∧
      params.find? name = some value ∧ SortedMap.has named name = false := by
    cases h with
    | missing hname hfree => exact ⟨_, _, rfl, hname, hfree⟩
    | rejected hname hfree _ => exact ⟨_, _, rfl, hname, hfree⟩
  intro hfault
  obtain ⟨name', hname', hfault⟩ := hfault.at_name rfl
  have hat := getElem?_behind_ofPairs pairs rest 0
  rw [Nat.add_zero, hname', hhead] at hat
  obtain rfl := Option.some.inj hat
  rcases hfault with ⟨-, hunknown⟩ | ⟨-, j, hj, hagain⟩
  · exact hunknown (exists_find?_iff.mp ⟨value, hname⟩)
  · rw [List.getElem?_append_left (by rw [length_ofPairs]; omega), (getElem?_ofPairs pairs j).1] at hagain
    have hgiven := (hreads.has_iff name').mpr (List.mem_of_getElem? hagain)
    rw [hfree] at hgiven
    cases hgiven

/-- The check stops at the leftmost fault. -/
theorem PairStop.leftmost (hreads : ReadsPairs params net [] pairs runs named)
    (h : PairStop params net named rest k fault) :
    ∀ column < 2 * pairs.length + k, ∀ fault',
      ¬PairFault params net (ofPairs pairs ++ rest) column fault' := by
  intro column hcolumn fault'
  by_cases hbefore : column < 2 * pairs.length
  · exact hreads.not_pairFault hbefore
  · -- the place is that of the name, and the check stops behind it
    have hk : k ≤ 1 := by cases h <;> decide
    obtain rfl : k = 1 := by omega
    obtain rfl : column = 2 * pairs.length := by omega
    exact h.not_at_name hreads

/-- Arguments are accepted and well paired, or the leftmost fault of them is reported. -/
theorem wellPaired_or_leftmost (params : SortedMap String Completer) (net : Network) (args : List String) :
    ((∃ parsed, (Arguments.pairs params net args).value = .ok parsed) ∧ WellPaired params net args) ∨
      ∃ column fault, (Arguments.pairs params net args).value = .error (.argument column fault) ∧
        PairFault params net args column fault ∧
        ∀ column' < column, ∀ fault', ¬PairFault params net args column' fault' := by
  obtain ⟨pairs, runs, named, rest, rfl, hreads, hrest⟩ := exists_pairStop params net [] args
  have hvalue := hreads.pairsFrom_append 0 rest
  rcases hrest with rfl | ⟨k, fault, hstop⟩
  · rw [List.append_nil] at hvalue ⊢
    exact Or.inl ⟨⟨_, hvalue⟩, hreads.wellPaired⟩
  · rw [hstop.pairsFrom_eq, Nat.zero_add, length_ofPairs] at hvalue
    exact Or.inr ⟨_, fault, hvalue, hstop.pairFault hreads, hstop.leftmost hreads⟩

/-- What is entered has its names in order. -/
theorem ReadsPairs.increasing (h : ReadsPairs params net named pairs runs named')
    (hnamed : Increasing named) : Increasing named' := by
  induction h with
  | done named => exact hnamed
  | pair _ _ _ _ ih => exact ih (increasing_insert _ _ hnamed)

/-- Pairs in another order enter the same values. -/
theorem ReadsPairs.same_of_perm {pairs' : List (String × String)}
    (h : ReadsPairs params net [] pairs runs named) (hpairs : pairs.Perm pairs') :
    ∃ runs', ReadsPairs params net [] pairs' runs' named := by
  have hnodup : (pairs'.map Prod.fst).Nodup := (hpairs.map Prod.fst).nodup h.nodup.1
  have hfree : ∀ name ∈ pairs'.map Prod.fst, SortedMap.has ([] : SortedMap String Value) name = false :=
    fun _ _ => rfl
  obtain ⟨runs', named', h'⟩ := exists_readsPairs_of_nodup hnodup hfree
    fun name word hmem => h.valueOf (hpairs.mem_iff.mpr hmem)
  have hsame : named' = named := by
    refine (h'.increasing List.Pairwise.nil).ext (h.increasing List.Pairwise.nil) fun name => ?_
    refine Option.ext fun v => ?_
    simp only [h.find?_iff, h'.find?_iff, hpairs.mem_iff]
  exact ⟨runs', hsame ▸ h'⟩

end Faults

/-- **The check of pairs accepts exactly what is well paired, and reports the leftmost fault of anything
else.** The parameters, the state of the network and the arguments are any.

If arguments are accepted, there is no value by position; the values by name are, in the order of the names,
exactly those that the words stand for behind their names; and the same pairs in any other order have the
same outcome. If they are not accepted, the error is a fault of theirs at the place that is reported, with the
wording of the completer if this turned down a value, and in no place to the left of it is there a fault. -/
theorem pairs_accepted_or_leftmost_fault (params : SortedMap String Completer) (net : Network)
    (args : List String) :
    ((∃ parsed, (Arguments.pairs params net args).value = .ok parsed) ↔ WellPaired params net args) ∧
    (∀ parsed, (Arguments.pairs params net args).value = .ok parsed →
      parsed.positional = none ∧ Increasing parsed.named ∧
      (∀ name v, parsed.named.find? name = some v ↔
        ∃ i word, args[2 * i]? = some name ∧ args[2 * i + 1]? = some word ∧
          ValueOf params net name word v) ∧
      ∃ pairs, args = ofPairs pairs ∧ ∀ pairs', pairs.Perm pairs' →
        (Arguments.pairs params net (ofPairs pairs')).value = .ok parsed) ∧
    (∀ e, (Arguments.pairs params net args).value = .error e ↔
      ∃ column fault, e = .argument column fault ∧ PairFault params net args column fault ∧
        (∀ why, fault = .rejected why → e.message = why.message) ∧
        ∀ column' < column, ∀ fault', ¬PairFault params net args column' fault') := by
  have hcases := wellPaired_or_leftmost params net args
  refine ⟨⟨fun ⟨parsed, hparsed⟩ => ?_, fun hwell => ?_⟩, fun parsed hparsed => ?_, fun e => ⟨fun he => ?_, ?_⟩⟩
  · rcases hcases with ⟨-, hwell⟩ | ⟨column, fault, herror, -, -⟩
    · exact hwell
    · cases hparsed.symm.trans herror
  · rcases hcases with ⟨haccepted, -⟩ | ⟨column, fault, -, hfault, -⟩
    · exact haccepted
    · exact absurd hfault (wellPaired_iff.mp hwell column fault)
  · obtain ⟨pairs, runs, named, rfl, rfl, hreads⟩ := exists_readsPairs hparsed
    refine ⟨rfl, hreads.increasing List.Pairwise.nil, hreads.find?_places, pairs, rfl, fun pairs' hperm => ?_⟩
    obtain ⟨runs', hreads'⟩ := hreads.same_of_perm hperm
    exact congrArg Logged.value (hreads'.pairsFrom_eq 0)
  · rcases hcases with ⟨⟨parsed, hparsed⟩, -⟩ | ⟨column, fault, herror, hfault, hleft⟩
    · cases hparsed.symm.trans he
    · obtain rfl := Except.error.inj (herror.symm.trans he)
      exact ⟨column, fault, rfl, hfault, fun why hwhy => hwhy ▸ rfl, hleft⟩
  · rintro ⟨column, fault, rfl, hfault, -, hleft⟩
    rcases hcases with ⟨-, hwell⟩ | ⟨column', fault', herror, hfault', hleft'⟩
    · exact absurd hfault (wellPaired_iff.mp hwell column fault)
    · obtain ⟨rfl, rfl⟩ := hfault.eq_of_leftmost hleft hfault' hleft'
      exact herror

end RouterShell
