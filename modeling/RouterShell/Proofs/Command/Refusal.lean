import RouterShell.Proofs.Command.Welcome

/-!
# How arguments are turned down

Arguments are checked while they are still being typed, so a check sees many beginnings of the arguments
that are meant. This module says what it may hold against them. Either an argument is missing behind
those that are there, or one of those is at fault, and then no further arguments make up for it: the
fault stays, unless so many arguments follow that their number is turned down first.

## What is proved

`Refusal` has a constructor for each of the two. Checks by position and checks of pairs turn down
arguments in no other way (`positional_refusal`, `pairs_refusal`), nor do the two commands that look
at their second argument again (`second_refusal`), so no command does (`Offered.refusal`).
-/

namespace RouterShell

/-- The fault of an argument that is not there. -/
def ArgumentFault.isMissing : ArgumentFault → Bool
  | .missing => true
  | .missingValue _ => true
  | _ => false

/-- How a check turns arguments down. -/
inductive Refusal (check : List String → Except ShellError ParsedArgs) (args : List String) :
    ShellError → Prop where
  /-- An argument is missing behind them. -/
  | missing {fault : ArgumentFault} : fault.isMissing = true →
      Refusal check args (.argument args.length fault)
  /-- One of them is at fault, whatever follows, as long as their number is accepted. -/
  | lasting {column : Nat} {fault : ArgumentFault} : fault.isMissing = false → column < args.length →
      (∀ more, check (args ++ more) = .error (.argument column fault) ∨
        ∃ max < (args ++ more).length, check (args ++ more) = .error (.argument max .tooMany)) →
      Refusal check args (.argument column fault)

/-! ### Arguments that count by position -/

section Positional

variable {c : Completer} {min : Nat} {max : Option Nat} {net : Network} {args : List String}
  {e : ShellError}

/-- Only the number of the arguments and the first one count. -/
theorem positional_append (hne : args ≠ []) (hmin : min ≤ args.length) (more : List String) :
    (Arguments.positional c min max net (args ++ more)).value =
        (Arguments.positional c min max net args).value ∨
      ∃ m < (args ++ more).length,
        (Arguments.positional c min max net (args ++ more)).value = .error (.argument m .tooMany) := by
  have hlength : (args ++ more).length = args.length + more.length := List.length_append
  unfold Arguments.positional
  rw [if_neg (by omega : ¬ args.length < min), if_neg (by omega : ¬ (args ++ more).length < min)]
  cases hmax : max.filter (· < (args ++ more).length) with
  | some m =>
    rw [Option.filter_eq_some_iff, decide_eq_true_eq] at hmax
    exact Or.inr ⟨m, hmax.2, rfl⟩
  | none =>
    have hfew : max.filter (· < args.length) = none := by
      rw [Option.filter_eq_none_iff] at hmax ⊢
      intro m hm
      have hmore := hmax m hm
      rw [decide_eq_true_eq] at hmore ⊢
      omega
    obtain ⟨first, rest, rfl⟩ := List.exists_cons_of_ne_nil hne
    rw [hfew]
    exact Or.inl rfl

theorem positional_refusal (h : (Arguments.positional c min max net args).value = .error e) :
    Refusal (fun args => (Arguments.positional c min max net args).value) args e := by
  -- a fault that is not of the number of arguments is one of the first, and so lasts
  have hlasting : args ≠ [] → min ≤ args.length → ∀ more,
      (Arguments.positional c min max net (args ++ more)).value = .error e ∨
        ∃ m < (args ++ more).length,
          (Arguments.positional c min max net (args ++ more)).value = .error (.argument m .tooMany) :=
    fun hne hmin more => h ▸ positional_append hne hmin more
  by_cases hmin : args.length < min
  · have hvalue : (Arguments.positional c min max net args).value =
        .error (.argument args.length .missing) := by
      unfold Arguments.positional
      exact congrArg Logged.value (if_pos hmin)
    obtain rfl : ShellError.argument args.length .missing = e := Except.error.inj (hvalue.symm.trans h)
    exact .missing rfl
  · rcases positional_error h with ⟨hfew, -⟩ | ⟨m, -, hm, rfl⟩ | ⟨word, rest, why, rfl, -, rfl⟩
    · exact absurd hfew hmin
    · refine .lasting rfl hm (hlasting ?_ (Nat.not_lt.mp hmin))
      rintro rfl
      exact Nat.not_lt_zero _ hm
    · exact .lasting rfl (Nat.zero_lt_succ _) (hlasting (List.cons_ne_nil _ _) (Nat.not_lt.mp hmin))

/-- The same, if the second argument is checked once the first one and the number are. -/
theorem second_refusal (second : ParsedArgs → String → Except ShellError ParsedArgs)
    (hsecond : ∀ parsed w e, second parsed w = .error e →
      ∃ fault, e = .argument 1 fault ∧ fault.isMissing = false)
    (h : ((Arguments.positional c min max net args).value.bind fun parsed =>
      args[1]?.elim (.ok parsed) (second parsed)) = .error e) :
    Refusal (fun args => (Arguments.positional c min max net args).value.bind fun parsed =>
      args[1]?.elim (.ok parsed) (second parsed)) args e := by
  cases hpositional : (Arguments.positional c min max net args).value with
  | error e' =>
    rw [hpositional] at h
    obtain rfl : e' = e := Except.error.inj h
    cases positional_refusal hpositional with
    | missing hfault => exact .missing hfault
    | lasting hfault hcolumn hmore =>
      refine .lasting hfault hcolumn fun more => ?_
      rcases hmore more with heq | ⟨m, hm, heq⟩
      · exact Or.inl (by rw [heq]; rfl)
      · exact Or.inr ⟨m, hm, by rw [heq]; rfl⟩
  | ok parsed =>
    rw [hpositional] at h
    cases hword : args[1]? with
    | none =>
      rw [hword] at h
      cases h
    | some word =>
      rw [hword] at h
      obtain ⟨fault, rfl, hfault⟩ := hsecond parsed word e h
      have htwo : 1 < args.length := (List.getElem?_eq_some_iff.mp hword).1
      have hne : args ≠ [] := List.ne_nil_of_length_pos (by omega)
      have hmin : min ≤ args.length := (accepts_positional_iff.mp ⟨parsed, hpositional⟩).1
      refine .lasting hfault htwo fun more => ?_
      rcases positional_append hne hmin more with heq | ⟨m, hm, heq⟩
      · refine Or.inl ?_
        rw [heq, hpositional, List.getElem?_append_left htwo, hword]
        exact h
      · exact Or.inr ⟨m, hm, by rw [heq]; rfl⟩

end Positional

/-! ### Arguments in pairs -/

section Pairs

variable {params : SortedMap String Completer} {net : Network} {i : Nat} {named : SortedMap String Value}
  {args : List String} {e : ShellError}

/-- A pair of a parameter without a value so far and a word for it. -/
theorem pairsFrom_pair_value {name : String} {value : Completer} (hname : params.find? name = some value)
    (hfree : SortedMap.has named name = false) (word : String) (rest : List String) :
    (Arguments.pairsFrom params net i named (name :: word :: rest)).value =
      match (value.parse net word).value with
      | .ok v => (Arguments.pairsFrom params net (i + 2) (SortedMap.insert name v named) rest).value
      | .error why => .error (.argument (i + 1) (.rejected why)) := by
  rw [Arguments.pairsFrom, hname]
  simp only [hfree, Bool.false_eq_true, if_false, Logged.value_bind]
  cases (value.parse net word).value with
  | ok v => rfl
  | error why => rfl

/-- A name without a value is the last argument; any other fault lies in a pair that is there, and the
arguments behind it are not looked at. -/
theorem pairsFrom_error (h : (Arguments.pairsFrom params net i named args).value = .error e) :
    ∃ column fault, e = .argument column fault ∧
      (fault.isMissing = true ∧ column = i + args.length ∨
        fault.isMissing = false ∧ column < i + args.length ∧
          ∀ more, (Arguments.pairsFrom params net i named (args ++ more)).value = .error e) := by
  induction i, named, args using Arguments.pairsFrom.induct params with
  | case1 i named => cases h
  | case2 i named name rest hname =>
    have hvalue : ∀ tail, (Arguments.pairsFrom params net i named (name :: tail)).value =
        .error (.argument i (.unknownParameter name)) := by
      intro tail
      rw [Arguments.pairsFrom, hname]
      rfl
    obtain rfl := Except.error.inj ((hvalue rest).symm.trans h)
    exact ⟨_, _, rfl, Or.inr ⟨rfl, by simp, fun more => hvalue (rest ++ more)⟩⟩
  | case3 i named name rest value hname hgiven =>
    have hvalue : ∀ tail, (Arguments.pairsFrom params net i named (name :: tail)).value =
        .error (.argument i (.repeatedParameter name)) := by
      intro tail
      rw [Arguments.pairsFrom, hname]
      exact congrArg Logged.value (if_pos hgiven)
    obtain rfl := Except.error.inj ((hvalue rest).symm.trans h)
    exact ⟨_, _, rfl, Or.inr ⟨rfl, by simp, fun more => hvalue (rest ++ more)⟩⟩
  | case4 i named name value hname hgiven =>
    rw [Arguments.pairsFrom, hname] at h
    obtain rfl := Except.error.inj ((congrArg Logged.value (if_neg hgiven)).symm.trans h)
    exact ⟨_, _, rfl, Or.inl ⟨rfl, rfl⟩⟩
  | case5 i named name value hname hgiven word rest ih =>
    have hpair := fun tail => @pairsFrom_pair_value params net i named name value hname
      (Bool.eq_false_iff.mpr hgiven) word tail
    rw [hpair] at h
    simp only [List.cons_append, hpair, List.length_cons]
    cases hparse : (value.parse net word).value with
    | error why =>
      rw [hparse] at h
      obtain rfl := Except.error.inj h
      exact ⟨_, _, rfl, Or.inr ⟨rfl, by omega, fun more => rfl⟩⟩
    | ok v =>
      rw [hparse] at h
      obtain ⟨column, fault, rfl, hfault⟩ := ih v h
      refine ⟨column, fault, rfl, ?_⟩
      rcases hfault with ⟨hmissing, hcolumn⟩ | ⟨hthere, hcolumn, hmore⟩
      · exact Or.inl ⟨hmissing, by omega⟩
      · exact Or.inr ⟨hthere, by omega, hmore⟩

theorem pairs_refusal (h : (Arguments.pairs params net args).value = .error e) :
    Refusal (fun args => (Arguments.pairs params net args).value) args e := by
  obtain ⟨column, fault, rfl, ⟨hmissing, hcolumn⟩ | ⟨hthere, hcolumn, hmore⟩⟩ := pairsFrom_error h
  · rw [Nat.zero_add] at hcolumn
    subst hcolumn
    exact .missing hmissing
  · exact .lasting hthere (by omega) fun more => Or.inl (hmore more)

end Pairs

/-! ### The commands -/

section Commands

variable {net : Network} {args : List String} {e : ShellError}

theorem bare_refusal {description : String} {execute : Environment → Invocation → Action Output}
    (h : ((Command.bare description execute).validate net args).value = .error e) :
    Refusal (fun args => ((Command.bare description execute).validate net args).value) args e := by
  have hvalue : ∀ word rest, ((Command.bare description execute).validate net (word :: rest)).value =
      .error (.argument 0 .noneAllowed) := fun _ _ => rfl
  cases args with
  | nil => cases h
  | cons word rest =>
    obtain rfl := Except.error.inj ((hvalue word rest).symm.trans h)
    exact .lasting rfl (Nat.zero_lt_succ _) fun more => Or.inl (hvalue word (rest ++ more))

theorem interface_refusal {ethtool : Bool}
    (h : ((Show.interface ethtool).validate net args).value = .error e) :
    Refusal (fun args => ((Show.interface ethtool).validate net args).value) args e := by
  have hvalue := funext fun args => @interfaceValidate_value net ethtool args
  change (Show.interfaceValidate ethtool net args).value = _ at h
  change Refusal (fun args => (Show.interfaceValidate ethtool net args).value) args e
  rw [hvalue]
  rw [congrFun hvalue args] at h
  refine second_refusal aspectChecked (fun parsed word e hbad => ?_) h
  unfold aspectChecked at hbad
  split at hbad
  · cases hbad
  · exact ⟨_, (Except.error.inj hbad).symm, rfl⟩

theorem monitor_refusal (h : (Session.monitor.validate net args).value = .error e) :
    Refusal (fun args => (Session.monitor.validate net args).value) args e := by
  have hvalue := funext fun args => @monitorValidate_value net args
  change (Session.monitorValidate net args).value = _ at h
  change Refusal (fun args => (Session.monitorValidate net args).value) args e
  rw [hvalue]
  rw [congrFun hvalue args] at h
  refine second_refusal (linkChecked net) (fun parsed word e hbad => ?_) h
  unfold linkChecked at hbad
  split at hbad
  · cases hbad
  · exact ⟨_, (Except.error.inj hbad).symm, rfl⟩

/-- Every command turns down arguments because one is missing behind them, or for a fault that lasts. -/
theorem Offered.refusal {tools : Toolbox} {lookups : Lookups} {path : List String} {c : Command}
    (hc : Offered tools lookups path c) (h : (c.validate net args).value = .error e) :
    Refusal (fun args => (c.validate net args).value) args e := by
  cases hc with
  | interface => exact interface_refusal h
  | monitor _ => exact monitor_refusal h
  | route _ family => exact pairs_refusal h
  | ifstateConfig _ => exact bare_refusal h
  | exit => exact bare_refusal h
  | address _ _ | neighbour _ _ | rule _ _ | fdb | namespaces | enable _ | disable _ | reset _
  | renegotiate _ | identify _ | netns | help | tool _ _ => exact positional_refusal h

end Commands

end RouterShell
