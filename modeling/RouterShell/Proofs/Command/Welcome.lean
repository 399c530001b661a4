import RouterShell.Proofs.Command.Acceptance
import RouterShell.Proofs.Command.Builtin
import RouterShell.Proofs.Command.Offering

/-!
# Whether offered words are accepted

Two parts of a command have an opinion on a word of its arguments: the completer offers it or not, and the
check of the arguments accepts it or not. They are written separately, and this module compares them, for
every command and every place among the arguments.

## The model

`Welcomes` is what the comparison comes to. The check turns a word down at its own place only if the command
has as many arguments already as it takes, or if the word is a name that its table misreads. The first is a
gap of completion: a completer of one word offers the same words at every place, and nothing tells it how
many arguments there may be. The second comes of names that are numerals: these are taken for an id, also
if the number is none.

## What is proved

Checks are taken apart once (`positional_error`, `pairsFrom_refused`). With what completers offer and which
words they take (`Takes`) this gives `Offered.welcomes`, with one case for each command.
-/

namespace RouterShell

open Completer SortedMap

/-- A name of a table that is not read as one. -/
def Lookup.Misreads (t : Lookup) (name : String) : Prop := name ∈ t.names ∧ t.id? name = none

/-- A name that is misread as the value of a parameter of routes. -/
def Lookups.Misread (lookups : Lookups) (param name : String) : Prop :=
  ∃ t, (param, t) ∈ [("proto", lookups.protocols), ("scope", lookups.scopes), ("table", lookups.tables)] ∧
    t.Misreads name

/-- A completer reads certain words as values. -/
def Completer.Takes (c : Completer) (net : Network) (words : List String) : Prop :=
  ∀ word ∈ words, ∃ v, (c.parse net word).value = .ok v

/-- The words that a command offers, and what its check says to them. -/
structure Command.Welcomes (c : Command) (net : Network) (offered : List String → List String)
    (misread : String → String → Prop) : Prop where
  /-- The words that the completer offers behind arguments. -/
  offers : c.completer.Offers net offered
  /-- An offered word is turned down at its own place only for want of room, or if it is misread behind the
  last argument. -/
  refused : ∀ args word e, word ∈ offered args → word ≠ "" →
    (c.validate net (args ++ [word])).value = .error e →
    ∃ column fault, e = .argument column fault ∧
      (column = args.length →
        c.maxArgs = some args.length ∨ ∃ param, args.getLast? = some param ∧ misread param word)
  /-- Without room every word is turned down, at its own place. -/
  full : ∀ args word, c.maxArgs = some args.length →
    (c.validate net (args ++ [word])).value = .error (.argument args.length .tooMany)

/-! ### Words that completers take -/

section Takes

variable {net : Network} {c first rest : Completer} {words : List String}

theorem takes_nil (c : Completer) : c.Takes net [] := fun _ h => absurd h List.not_mem_nil

theorem takes_suggesting (offered words : List String) : (suggesting offered).Takes net words :=
  fun _ _ => ⟨_, rfl⟩

theorem takes_among (kind : String) (words : List String) : (among kind words).Takes net words := by
  intro word hword
  refine ⟨.text word, ?_⟩
  show (if words.contains word then _ else _) = _
  rw [if_pos (List.contains_iff_mem.mpr hword)]

theorem takes_namespaces : namespaces.Takes net (namespaceNames net).value := by
  intro word hword
  refine ⟨.text word, ?_⟩
  show (if (namespaceNames net).value.contains word then _ else _) = _
  rw [if_pos (List.contains_iff_mem.mpr hword)]

theorem takes_links (physical : Bool) :
    (ofLinks physical).Takes net ((linkNames physical net).value.map Prod.fst) := by
  intro word hword
  obtain ⟨l, hl, rfl⟩ := List.mem_map.mp hword
  have hfind : ((linkNames physical net).value.find? fun l' => l'.1 == l.1).isSome = true := by
    rw [List.find?_isSome]
    exact ⟨l, hl, beq_self_eq_true l.1⟩
  obtain ⟨⟨name, index⟩, hsome⟩ := Option.isSome_iff_exists.mp hfind
  refine ⟨.link name index, ?_⟩
  simp only [ofLinks, Logged.value_bind, Logged.value_pure, hsome]

/-- A word that a table does not take is none of its ids. -/
theorem table_refused {kind : String} {t : Lookup} {word : String} {why : Rejection}
    (h : ((table kind t).parse net word).value = .error why) : t.id? word = none := by
  simp only [table, Logged.value_pure] at h
  split at h
  · cases h
  · next hnone => exact hnone

theorem Completer.Takes.peer (h : first.Takes net words) (rest : Completer) :
    (Completer.peer first rest).Takes net words := h

end Takes

/-! ### Arguments that count by position -/

section Positional

variable {c : Completer} {min : Nat} {max : Option Nat} {net : Network} {args : List String}
  {e : ShellError}

/-- What can be wrong with arguments that count by position. -/
theorem positional_error (h : (Arguments.positional c min max net args).value = .error e) :
    (args.length < min ∧ e = .argument args.length .missing) ∨
      (∃ m, max = some m ∧ m < args.length ∧ e = .argument m .tooMany) ∨
      ∃ word rest why, args = word :: rest ∧ (c.parse net word).value = .error why ∧
        e = .argument 0 (.rejected why) := by
  unfold Arguments.positional at h
  split at h
  · next hmin => exact Or.inl ⟨hmin, (Except.error.inj h).symm⟩
  · split at h
    · next m hmax =>
      rw [Option.filter_eq_some_iff, decide_eq_true_eq] at hmax
      exact Or.inr (Or.inl ⟨m, hmax.1, hmax.2, (Except.error.inj h).symm⟩)
    · cases args with
      | nil => cases h
      | cons word rest =>
        dsimp only at h
        rw [Logged.value_bind] at h
        cases hvalue : (c.parse net word).value with
        | ok v =>
          rw [hvalue] at h
          cases h
        | error why =>
          rw [hvalue] at h
          exact Or.inr (Or.inr ⟨word, rest, why, rfl, hvalue, (Except.error.inj h).symm⟩)

/-- One argument more than there may be is turned down. -/
theorem positional_full (hmin : min ≤ args.length) (word : String) :
    (Arguments.positional c min (some args.length) net (args ++ [word])).value =
      .error (.argument args.length .tooMany) := by
  have hlength : (args ++ [word]).length = args.length + 1 := by simp
  have hmax : (some args.length).filter (· < (args ++ [word]).length) = some args.length := by
    rw [Option.filter_eq_some_iff, hlength]
    simp
  unfold Arguments.positional
  rw [if_neg (by omega), hmax]
  rfl

/-- An offered word is turned down at its own place only if there is no room for it. -/
theorem positional_refused {offered : List String → List String} (htakes : c.Takes net (offered []))
    {word : String} (hword : word ∈ offered args)
    (h : (Arguments.positional c min max net (args ++ [word])).value = .error e) :
    ∃ column fault, e = .argument column fault ∧ (column = args.length → max = some args.length) := by
  have hlength : (args ++ [word]).length = args.length + 1 := by simp
  rcases positional_error h with ⟨-, rfl⟩ | ⟨m, rfl, -, rfl⟩ | ⟨first, rest, why, hargs, hparse, rfl⟩
  · exact ⟨_, _, rfl, fun hcolumn => by omega⟩
  · exact ⟨_, _, rfl, fun hcolumn => by rw [hcolumn]⟩
  · refine ⟨_, _, rfl, fun hcolumn => ?_⟩
    -- the first argument is the offered word itself, and that one is read
    obtain rfl := List.eq_nil_of_length_eq_zero hcolumn.symm
    obtain ⟨rfl, -⟩ := List.cons.inj hargs
    obtain ⟨v, hv⟩ := htakes word hword
    rw [hv] at hparse
    cases hparse

/-- The same, if the second argument is checked once the first one and the number are. -/
theorem second_refused {offered : List String → List String} (htakes : c.Takes net (offered []))
    (second : ParsedArgs → String → Except ShellError ParsedArgs)
    (hsecond : ∀ parsed w e, second parsed w = .error e → ∃ fault, e = .argument 1 fault)
    {word : String} (hword : word ∈ offered args)
    (hoffered : ∀ first, args = [first] → (∀ m, max = some m → 2 ≤ m) →
      ∀ parsed, ∃ parsed', second parsed word = .ok parsed')
    (h : ((Arguments.positional c min max net (args ++ [word])).value.bind fun parsed =>
      (args ++ [word])[1]?.elim (.ok parsed) (second parsed)) = .error e) :
    ∃ column fault, e = .argument column fault ∧ (column = args.length → max = some args.length) := by
  cases hpositional : (Arguments.positional c min max net (args ++ [word])).value with
  | error e' =>
    rw [hpositional] at h
    obtain rfl : e' = e := Except.error.inj h
    exact positional_refused htakes hword hpositional
  | ok parsed =>
    rw [hpositional] at h
    cases hw : (args ++ [word])[1]? with
    | none =>
      rw [hw] at h
      cases h
    | some w =>
      rw [Except.bind, hw, Option.elim_some] at h
      obtain ⟨fault, rfl⟩ := hsecond parsed w e h
      refine ⟨1, fault, rfl, fun hcolumn => ?_⟩
      -- the second argument is the offered word itself, and that one is accepted
      obtain ⟨first, rfl⟩ := List.length_eq_one_iff.mp hcolumn.symm
      obtain rfl : word = w := Option.some.inj hw
      have hroom := (accepts_positional_iff.mp ⟨parsed, hpositional⟩).2.1
      obtain ⟨parsed', hok⟩ := hoffered first rfl hroom parsed
      rw [hok] at h
      cases h

end Positional

/-! ### Arguments in pairs -/

/-- An offered word is turned down at its own place only if it is a value that is misread. The names that
are left are those without a value so far; every pair takes its name away from them. -/
theorem pairsFrom_refused {params : SortedMap String Completer} {values : String → List String}
    {misread : String → String → Prop} {net : Network} {left : List String} {named : SortedMap String Value}
    (hvalues : ∀ name value, params.find? name = some value → ∀ word ∈ values name, word ≠ "" →
      ∀ why, (value.parse net word).value = .error why → misread name word)
    (hnodup : left.Nodup)
    (hleft : ∀ name ∈ left, (∃ value, params.find? name = some value) ∧
      SortedMap.has named name = false)
    {i : Nat} {args : List String} {word : String} {e : ShellError}
    (hword : word ∈ tupleWords values left args) (hne : word ≠ "")
    (h : (Arguments.pairsFrom params net i named (args ++ [word])).value = .error e) :
    ∃ column fault, e = .argument column fault ∧
      (column = i + args.length → ∃ param, args.getLast? = some param ∧ misread param word) := by
  induction left, args using tupleWords.induct generalizing i named with
  | case1 left =>
    -- a name: its value is missing
    rw [tupleWords] at hword
    obtain ⟨⟨value, hfind⟩, hfree⟩ := hleft word hword
    rw [List.nil_append, Arguments.pairsFrom, hfind] at h
    simp only [hfree, Bool.false_eq_true, if_false, Logged.value_pure, Except.error.injEq] at h
    refine ⟨_, _, h.symm, fun hcolumn => ?_⟩
    rw [List.length_nil] at hcolumn
    omega
  | case2 left name hname =>
    -- the value of the last name
    rw [tupleWords, if_pos hname] at hword
    obtain ⟨⟨value, hfind⟩, hfree⟩ := hleft name hname
    rw [List.singleton_append, Arguments.pairsFrom, hfind] at h
    simp only [hfree, Bool.false_eq_true, if_false, Logged.value_bind] at h
    cases hparse : (value.parse net word).value with
    | ok v =>
      rw [hparse] at h
      cases h
    | error why =>
      rw [hparse] at h
      exact ⟨_, _, (Except.error.inj h).symm, fun _ =>
        ⟨name, rfl, hvalues name value hfind word hword hne why hparse⟩⟩
  | case3 left name hname =>
    rw [tupleWords, if_neg hname] at hword
    exact absurd hword List.not_mem_nil
  | case4 left name first args hname ih =>
    -- a pair, which was accepted or is at fault itself
    rw [tupleWords, if_pos hname] at hword
    obtain ⟨⟨value, hfind⟩, hfree⟩ := hleft name hname
    rw [List.cons_append, List.cons_append, Arguments.pairsFrom, hfind] at h
    simp only [hfree, Bool.false_eq_true, if_false, Logged.value_bind] at h
    cases hparse : (value.parse net first).value with
    | ok v =>
      rw [hparse] at h
      have hrest : ∀ n ∈ left.erase name, (∃ value, params.find? n = some value) ∧
          SortedMap.has (SortedMap.insert name v named) n = false := by
        intro n hn
        rw [hnodup.mem_erase_iff] at hn
        obtain ⟨hparam, hn'⟩ := hleft n hn.2
        rw [SortedMap.has_insert_of_ne (Ne.symm hn.1)]
        exact ⟨hparam, hn'⟩
      obtain ⟨column, fault, rfl, hmisread⟩ := ih (hnodup.erase name) hrest hword h
      refine ⟨column, fault, rfl, fun hcolumn => ?_⟩
      rw [List.length_cons, List.length_cons] at hcolumn
      obtain ⟨param, hparam, hword⟩ := hmisread (by omega)
      refine ⟨param, ?_, hword⟩
      rw [List.getLast?_cons, List.getLast?_cons, hparam]
      rfl
    | error why =>
      rw [hparse] at h
      refine ⟨_, _, (Except.error.inj h).symm, fun hcolumn => ?_⟩
      rw [List.length_cons, List.length_cons] at hcolumn
      omega
  | case5 left name first args hname =>
    rw [tupleWords, if_neg hname] at hword
    exact absurd hword List.not_mem_nil

/-! ### The commands -/

section Commands

variable {net : Network} {misread : String → String → Prop}

theorem welcomes_simple {completer : Completer} {offered : List String → List String}
    (hoffers : completer.Offers net offered) (htakes : completer.Takes net (offered []))
    (description : String) {min : Nat} {max : Option Nat} (hmin : ∀ m, max = some m → min ≤ m)
    (execute : Environment → Invocation → Action Output) :
    (Command.simple description min max completer execute).Welcomes net offered misread where
  offers := hoffers
  refused args word e hword _ h := by
    obtain ⟨column, fault, he, hcolumn⟩ := positional_refused htakes hword h
    exact ⟨column, fault, he, fun heq => Or.inl (hcolumn heq)⟩
  full args word hmax := by
    obtain rfl : max = some args.length := hmax
    exact positional_full (hmin _ rfl) word

/-- A command without arguments offers none. -/
theorem welcomes_bare (description : String) (execute : Environment → Invocation → Action Output) :
    (Command.bare description execute).Welcomes net (fun _ => []) misread where
  offers := offers_free
  refused _ _ _ hword _ _ := absurd hword List.not_mem_nil
  full _ _ hmax := nomatch hmax

/-- The aspects that are offered are known. -/
theorem aspectOption_of_mem : ∀ word ∈ Show.aspects.map Prod.fst, (Show.aspectOption? word).isSome = true := by
  decide

/-- The words that are offered for an interface and an aspect of it. -/
def interfaceWords (ethtool : Bool) (net : Network) : List String → List String :=
  if ethtool then
    peerWords (fun _ => (linkNames false net).value.map Prod.fst) fun _ => Show.aspects.map Prod.fst
  else fun _ => (linkNames false net).value.map Prod.fst

/-- The check of an aspect, once the arguments before it are accepted. -/
def aspectChecked (parsed : ParsedArgs) (word : String) : Except ShellError ParsedArgs :=
  if (Show.aspectOption? word).isSome then .ok parsed else .error (.argument 1 (.invalidSubcommand word))

theorem interfaceValidate_value (ethtool : Bool) (args : List String) :
    (Show.interfaceValidate ethtool net args).value =
      (Arguments.positional (Show.interfaceCompleter ethtool) 0 (some (Show.interfaceMax ethtool)) net
        args).value.bind fun parsed => args[1]?.elim (.ok parsed) (aspectChecked parsed) := by
  rw [Show.interfaceValidate, Logged.value_bind]
  generalize (Arguments.positional _ _ _ _ _).value = answer
  cases answer with
  | error e => rfl
  | ok parsed => cases args[1]? <;> rfl

theorem aspectChecked_error {parsed : ParsedArgs} {word : String} {e : ShellError}
    (h : aspectChecked parsed word = .error e) : ∃ fault, e = .argument 1 fault := by
  unfold aspectChecked at h
  split at h
  · cases h
  · exact ⟨_, (Except.error.inj h).symm⟩

theorem takes_interface (ethtool : Bool) :
    (Show.interfaceCompleter ethtool).Takes net (interfaceWords ethtool net []) := by
  cases ethtool with
  | true => exact (takes_links false).peer _
  | false => exact takes_links false

theorem welcomes_interface (ethtool : Bool) :
    (Show.interface ethtool).Welcomes net (interfaceWords ethtool net) misread where
  offers := by
    cases ethtool with
    | true => exact (offers_links false).peer (offers_suggesting _)
    | false => exact offers_links false
  refused args word e hword _ h := by
    have hoffered : ∀ first, args = [first] → (∀ m, some (Show.interfaceMax ethtool) = some m → 2 ≤ m) →
        ∀ parsed, ∃ parsed', aspectChecked parsed word = .ok parsed' := by
      rintro first rfl hroom parsed
      cases ethtool with
      | true => exact ⟨parsed, if_pos (aspectOption_of_mem word hword)⟩
      | false => exact absurd (hroom 1 rfl) (by decide)
    obtain ⟨column, fault, he, hcolumn⟩ := second_refused (takes_interface ethtool) aspectChecked
      (fun _ _ _ => aspectChecked_error) hword hoffered ((interfaceValidate_value ethtool _).symm.trans h)
    exact ⟨column, fault, he, fun heq => Or.inl (hcolumn heq)⟩
  full args word hmax := by
    obtain hmax : Show.interfaceMax ethtool = args.length := Option.some.inj hmax
    refine (interfaceValidate_value ethtool _).trans ?_
    rw [hmax, positional_full (Nat.zero_le _) word]
    rfl

/-- The words that are offered for something to watch and an interface. -/
def monitorWords (net : Network) : List String → List String :=
  peerWords (fun _ => Session.monitorObjects) fun _ => (linkNames false net).value.map Prod.fst

/-- The check of an interface to watch, once the arguments before it are accepted. -/
def linkChecked (net : Network) (parsed : ParsedArgs) (word : String) : Except ShellError ParsedArgs :=
  match (Completer.links.parse net word).value with
  | .ok _ => .ok parsed
  | .error why => .error (.argument 1 (.rejected why))

theorem monitorValidate_value (args : List String) :
    (Session.monitorValidate net args).value =
      (Arguments.positional Session.monitorCompleter 1 (some 2) net args).value.bind fun parsed =>
        args[1]?.elim (.ok parsed) (linkChecked net parsed) := by
  rw [Session.monitorValidate, Logged.value_bind]
  generalize (Arguments.positional _ _ _ _ _).value = answer
  cases answer with
  | error e => rfl
  | ok parsed =>
    cases args[1]? with
    | none => rfl
    | some w =>
      simp only [Except.bind, Option.elim_some, Logged.value_bind, linkChecked]
      cases (Completer.links.parse net w).value <;> rfl

theorem linkChecked_error {parsed : ParsedArgs} {word : String} {e : ShellError}
    (h : linkChecked net parsed word = .error e) : ∃ fault, e = .argument 1 fault := by
  unfold linkChecked at h
  split at h
  · cases h
  · exact ⟨_, (Except.error.inj h).symm⟩

theorem welcomes_monitor : Session.monitor.Welcomes net (monitorWords net) misread where
  offers := (offers_among _ _).peer (offers_links false)
  refused args word e hword _ h := by
    have htakes : Session.monitorCompleter.Takes net (monitorWords net []) := (takes_among _ _).peer _
    have hoffered : ∀ first, args = [first] → (∀ m, some 2 = some m → 2 ≤ m) →
        ∀ parsed, ∃ parsed', linkChecked net parsed word = .ok parsed' := by
      rintro first rfl - parsed
      obtain ⟨v, hv⟩ := takes_links false word hword
      exact ⟨parsed, by rw [linkChecked, Completer.links, hv]⟩
    obtain ⟨column, fault, he, hcolumn⟩ := second_refused htakes (linkChecked net)
      (fun _ _ _ => linkChecked_error) hword hoffered ((monitorValidate_value _).symm.trans h)
    exact ⟨column, fault, he, fun heq => Or.inl (hcolumn heq)⟩
  full args word hmax := by
    obtain hmax : 2 = args.length := Option.some.inj hmax
    refine (monitorValidate_value _).trans ?_
    rw [hmax, positional_full (by omega) word]
    rfl

/-- The parameters of routes, in the order of their names. -/
theorem routeParams_eq (lookups : Lookups) (family : Family) :
    Show.routeParams lookups family =
      [("dev", .links), ("proto", .table "protocol" lookups.protocols),
        ("scope", .table "scope" lookups.scopes), ("table", .table "table" lookups.tables),
        ("to", .net (some family)), ("via", .address (some family))] := by
  simp only [Show.routeParams, SortedMap.ofList, SortedMap.insert, List.foldl_cons, List.foldl_nil,
    String.reduceEq, String.reduceLT, if_false, if_true]

/-- The values that are offered for a parameter of routes. -/
def routeValues (lookups : Lookups) (net : Network) : String → List String
  | "dev" => (linkNames false net).value.map Prod.fst
  | "proto" => lookups.protocols.names
  | "scope" => lookups.scopes.names
  | "table" => lookups.tables.names
  | _ => []

theorem welcomes_route (lookups : Lookups) (family : Family) :
    (Show.route lookups family).Welcomes net
      (tupleWords (routeValues lookups net) (Show.routeParams lookups family).keys) lookups.Misread where
  offers := by
    refine Offers.tuple fun name hname => ?_
    rw [routeParams_eq] at hname ⊢
    simp only [SortedMap.keys_cons, SortedMap.keys_nil, List.mem_cons, List.not_mem_nil, or_false] at hname
    rcases hname with rfl | rfl | rfl | rfl | rfl | rfl
    · exact ⟨_, rfl, offers_links false⟩
    · exact ⟨_, rfl, offers_table _ _⟩
    · exact ⟨_, rfl, offers_table _ _⟩
    · exact ⟨_, rfl, offers_table _ _⟩
    · exact ⟨_, rfl, fun text h => offers_net (some family) text h⟩
    · exact ⟨_, rfl, fun text h => offers_address (some family) text h⟩
  refused args word e hword hne h := by
    have hvalues : ∀ name value, (Show.routeParams lookups family).find? name = some value →
        ∀ word ∈ routeValues lookups net name, word ≠ "" →
        ∀ why, (value.parse net word).value = .error why → lookups.Misread name word := by
      intro name value hfind word hword hne why hparse
      have hname := exists_find?_iff.mp ⟨value, hfind⟩
      rw [routeParams_eq] at hfind hname
      simp only [SortedMap.keys_cons, SortedMap.keys_nil, List.mem_cons, List.not_mem_nil, or_false] at hname
      rcases hname with rfl | rfl | rfl | rfl | rfl | rfl
      · obtain rfl : Completer.links = value := Option.some.inj hfind
        obtain ⟨v, hv⟩ := takes_links false word hword
        rw [Completer.links, hv] at hparse
        cases hparse
      · obtain rfl : Completer.table "protocol" lookups.protocols = value := Option.some.inj hfind
        exact ⟨lookups.protocols, by simp, hword, table_refused hparse⟩
      · obtain rfl : Completer.table "scope" lookups.scopes = value := Option.some.inj hfind
        exact ⟨lookups.scopes, by simp, hword, table_refused hparse⟩
      · obtain rfl : Completer.table "table" lookups.tables = value := Option.some.inj hfind
        exact ⟨lookups.tables, by simp, hword, table_refused hparse⟩
      · exact absurd hword List.not_mem_nil
      · exact absurd hword List.not_mem_nil
    have hnodup : (Show.routeParams lookups family).keys.Nodup := by
      rw [routeParams_eq]
      simp only [SortedMap.keys_cons, SortedMap.keys_nil]
      decide
    obtain ⟨column, fault, he, hmisread⟩ := pairsFrom_refused hvalues hnodup
      (fun name hname => ⟨exists_find?_iff.mpr hname, rfl⟩) hword hne h
    exact ⟨column, fault, he, fun hcolumn => Or.inr (hmisread (by rw [hcolumn, Nat.zero_add]))⟩
  full _ _ hmax := nomatch hmax

/-- Every command tells what it offers, and how its check treats that. -/
theorem Offered.welcomes {tools : Toolbox} {lookups : Lookups} {path : List String} {c : Command}
    (h : Offered tools lookups path c) (net : Network) :
    ∃ offered, c.Welcomes net offered lookups.Misread := by
  cases h with
  | interface => exact ⟨_, welcomes_interface _⟩
  | route _ family => exact ⟨_, welcomes_route lookups family⟩
  | monitor _ => exact ⟨_, welcomes_monitor⟩
  | ifstateConfig _ => exact ⟨_, welcomes_bare _ _⟩
  | exit => exact ⟨_, welcomes_bare _ _⟩
  | address _ _ | neighbour _ _ | rule _ _ | fdb =>
    exact ⟨_, welcomes_simple (offers_links false) (takes_links false) _ (by simp) _⟩
  | enable _ | disable _ =>
    exact ⟨_, welcomes_simple (offers_links false) (takes_links false) _ (by simp) _⟩
  | renegotiate _ =>
    exact ⟨_, welcomes_simple (offers_links true) (takes_links true) _ (by simp) _⟩
  | reset _ =>
    exact ⟨_, welcomes_simple ((offers_links true).peer ((offers_suggesting _).peer offers_free))
      ((takes_links true).peer _) _ (by simp) _⟩
  | identify _ =>
    exact ⟨_, welcomes_simple ((offers_links true).peer offers_free) ((takes_links true).peer _) _
      (by simp) _⟩
  | namespaces | help => exact ⟨_, welcomes_simple offers_free (takes_nil _) _ (by simp) _⟩
  | netns => exact ⟨_, welcomes_simple offers_namespaces takes_namespaces _ (by simp) _⟩
  | tool _ _ => exact ⟨_, welcomes_simple (offers_suggesting _) (takes_suggesting _ _) _ (by simp) _⟩

end Commands

end RouterShell
