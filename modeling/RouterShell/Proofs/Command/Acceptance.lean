import RouterShell.Command.Builtin
import RouterShell.Proofs.Abbreviation

/-!
# Accepting arguments

What commands demand of their arguments before they are executed. Arguments that count by position are
accepted if there are not too few and not too many of them and the first one has a value
(`accepts_positional_iff`). Two commands are looked at more closely: switching the namespace accepts the
names of existing namespaces (`accepts_netns_iff`), and showing an interface accepts no second argument
unless there is a tool for it (`length_le_of_accepts_interface`).
-/

namespace RouterShell

/-- Arguments are accepted. -/
def Accepts (answer : Logged (Except ShellError ParsedArgs)) : Prop :=
  ∃ parsed, answer.value = .ok parsed

theorem accepts_positional_iff {c : Completer} {min : Nat} {max : Option Nat} {net : Network}
    {args : List String} :
    Accepts (Arguments.positional c min max net args) ↔
      min ≤ args.length ∧ (∀ m, max = some m → args.length ≤ m) ∧
      ∀ word, args.head? = some word → ∃ v, (c.parse net word).value = .ok v := by
  unfold Arguments.positional
  by_cases hmin : args.length < min
  · rw [if_pos hmin]
    constructor
    · rintro ⟨_, ⟨⟩⟩
    · rintro ⟨h, -, -⟩
      exact absurd hmin (Nat.not_lt.mpr h)
  rw [if_neg hmin]
  cases hmax : max.filter (· < args.length) with
  | some m =>
    rw [Option.filter_eq_some_iff, decide_eq_true_eq] at hmax
    constructor
    · rintro ⟨_, ⟨⟩⟩
    · rintro ⟨-, h, -⟩
      exact absurd hmax.2 (Nat.not_lt.mpr (h m hmax.1))
  | none =>
    have hfew : ∀ m, max = some m → args.length ≤ m := by
      rintro m rfl
      rw [Option.filter_eq_none_iff] at hmax
      simpa using hmax
    cases args with
    | nil =>
      have hzero : min = 0 := by simpa using hmin
      simp [Accepts, hzero]
    | cons first rest =>
      have hmin' : min ≤ (first :: rest).length := Nat.not_lt.mp hmin
      simp only [Accepts, Logged.value_bind]
      cases hvalue : (c.parse net first).value with
      | ok value =>
        refine ⟨fun _ => ⟨hmin', hfew, fun word hword => ?_⟩, fun _ => ⟨_, rfl⟩⟩
        obtain rfl : first = word := Option.some.inj hword
        exact ⟨value, hvalue⟩
      | error why =>
        constructor
        · rintro ⟨_, ⟨⟩⟩
        · rintro ⟨-, -, h⟩
          obtain ⟨v, hv⟩ := h first rfl
          rw [hvalue] at hv
          cases hv

section Namespaces

variable {host : NamespaceState} {named : SortedMap String NamespaceState} {net net' : Network}

/-- Switching the namespace accepts the name of an existing one, or nothing, in whatever namespace. -/
theorem accepts_netns_iff (hsource : net.source = .memory host named) {args : List String} :
    Accepts (Session.netns.validate net args) ↔
      args.length ≤ 1 ∧ ∀ name ∈ args, name ∈ named.keys := by
  have hparse : ∀ word, (∃ v, (Completer.namespaces.parse net word).value = .ok v) ↔
      word ∈ named.keys := by
    intro word
    have hvalue : (Completer.namespaces.parse net word).value =
        if named.keys.contains word then .ok (.text word) else .error (.noNamespace word) := by
      obtain ⟨source, active⟩ := net
      obtain rfl : source = .memory host named := hsource
      rfl
    rw [hvalue]
    by_cases hword : word ∈ named.keys
    · simp [hword]
    · simp [hword]
  refine accepts_positional_iff.trans ?_
  simp only [hparse]
  constructor
  · rintro ⟨-, hlength, hhead⟩
    have hone := hlength 1 rfl
    refine ⟨hone, fun name hname => ?_⟩
    match args, hone with
    | [word], _ =>
      obtain rfl := List.mem_singleton.mp hname
      exact hhead name rfl
  · rintro ⟨hlength, hnames⟩
    refine ⟨Nat.zero_le _, fun m hm => ?_, fun word hword => hnames word (List.mem_of_mem_head? hword)⟩
    obtain rfl : 1 = m := Option.some.inj hm
    exact hlength

/-- A network is the same in another namespace, but for the namespace. -/
theorem Network.eq_of_within {ns : Option String} (h : net.within ns = .ok net') :
    net' = ⟨net.source, ns⟩ := by
  unfold Network.within at h
  split at h
  · cases hstate : Network.stateOf _ _ ns with
    | error fault =>
      rw [hstate] at h
      cases h
    | ok state =>
      rw [hstate] at h
      exact (Except.ok.inj h).symm
  · exact (Except.ok.inj h).symm

/-- The existing namespaces can be entered. -/
theorem Network.within_of_mem (hsource : net.source = .memory host named) {ns : Option String}
    (h : ∀ name, ns = some name → name ∈ named.keys) : net.within ns = .ok ⟨net.source, ns⟩ := by
  obtain ⟨source, active⟩ := net
  obtain rfl : source = .memory host named := hsource
  cases ns with
  | none => rfl
  | some name =>
    obtain ⟨state, hstate⟩ := SortedMap.exists_find?_iff.mpr (h name rfl)
    simp only [within, stateOf, hstate]
    rfl

end Namespaces

/-- Without a tool that reports on aspects, showing an interface accepts one argument at most. -/
theorem length_le_of_accepts_interface {ethtool : Bool} {net : Network} {args : List String}
    (h : Accepts ((Show.interface ethtool).validate net args)) :
    args.length ≤ Show.interfaceMax ethtool := by
  have hpositional : Accepts (Arguments.positional (Show.interfaceCompleter ethtool) 0
      (some (Show.interfaceMax ethtool)) net args) := by
    obtain ⟨parsed, hparsed⟩ := h
    change (Show.interfaceValidate ethtool net args).value = _ at hparsed
    rw [Show.interfaceValidate, Logged.value_bind] at hparsed
    cases hanswer : (Arguments.positional (Show.interfaceCompleter ethtool) 0
      (some (Show.interfaceMax ethtool)) net args).value with
    | ok parsed => exact ⟨parsed, hanswer⟩
    | error e =>
      rw [hanswer] at hparsed
      cases hparsed
  exact (accepts_positional_iff.mp hpositional).2.1 _ rfl

end RouterShell
