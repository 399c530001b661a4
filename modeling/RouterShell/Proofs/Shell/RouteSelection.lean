import RouterShell.Proofs.Command.Pairs
import RouterShell.Proofs.Shell.Written

/-!
# Selecting routes

The parameters that select routes pass through several forms on their way to `ip`: they are words of the
line, named values, the fields of a selection, and arguments of `ip` at last. This module follows them all
the way.

## The model

`RouteValue` says what kind of value a parameter has. `selectors` writes named values as arguments of `ip`,
without a selection in between: it goes through the parameters in a fixed order and writes the value of
each that has one behind its keyword.

## What is proved

A selection is written with the selectors of the values that it was made from (`routeArgs_selection`), and
whoever asks for routes runs `ip` with them (`Network.routes_tools`). As pairs in another order come to the
same values (`ReadsPairs.perm`), all that comes of the command is the same for them too
(`route_parameters_free_of_order`).
-/

namespace RouterShell

/-! ### Values of the parameters -/

/-- The values that a parameter of routes can have. -/
inductive RouteValue (family : Family) : String → Value → Prop where
  /-- A table is given by its id. -/
  | table (id : Nat) : RouteValue family "table" (.id id)
  /-- A device is an interface. -/
  | dev (name : String) (index : Nat) : RouteValue family "dev" (.link name index)
  /-- A gateway is an address of the family. -/
  | via {a : IpAddr} : a.family = family → RouteValue family "via" (.addr a)
  /-- A destination is a network of the family. -/
  | to {p : Prefix} : p.family = family → RouteValue family "to" (.net p)
  /-- A protocol is given by its id. -/
  | proto (id : Nat) : RouteValue family "proto" (.id id)
  /-- A scope is given by its id. -/
  | scope (id : Nat) : RouteValue family "scope" (.id id)

section Values

variable {lookups : Lookups} {family : Family} {net : Network} {name word : String} {v : Value}

theorem exists_link_of_links (h : (Completer.links.parse net word).value = .ok v) :
    ∃ index, v = .link word index := by
  simp only [Completer.links, Completer.ofLinks, Logged.value_bind, Logged.value_pure] at h
  split at h
  · next name index hfind =>
    have hname := List.find?_some hfind
    obtain rfl := beq_iff_eq.mp hname
    exact ⟨index, (Except.ok.inj h).symm⟩
  · cases h

theorem exists_id_of_table {kind : String} {t : Lookup}
    (h : ((Completer.table kind t).parse net word).value = .ok v) :
    ∃ id, t.id? word = some id ∧ v = .id id := by
  simp only [Completer.table, Logged.value_pure] at h
  split at h
  · next id hid => exact ⟨id, hid, (Except.ok.inj h).symm⟩
  · cases h

theorem exists_addr_of_address (h : ((Completer.address (some family)).parse net word).value = .ok v) :
    ∃ a, IpAddr.read word = some a ∧ v = .addr a ∧ a.family = family := by
  simp only [Completer.address, Logged.value_pure] at h
  split at h
  · cases h
  · next a hread =>
    split at h
    · next hfamily => exact ⟨a, hread, (Except.ok.inj h).symm, hfamily⟩
    · cases h

theorem exists_prefix_of_net (h : ((Completer.net (some family)).parse net word).value = .ok v) :
    ∃ p, Prefix.read word = .ok p ∧ v = .net p ∧ p.family = family := by
  simp only [Completer.net, Logged.value_pure] at h
  split at h
  · cases h
  · next p hread =>
    split at h
    · next hfamily => exact ⟨p, hread, (Except.ok.inj h).symm, hfamily⟩
    · cases h

/-- The parameters and what reads their values. -/
theorem routeParams_cases {value : Completer}
    (h : (Show.routeParams lookups family).find? name = some value) :
    (name = "dev" ∧ value = .links) ∨ (name = "proto" ∧ value = .table "protocol" lookups.protocols) ∨
      (name = "scope" ∧ value = .table "scope" lookups.scopes) ∨
      (name = "table" ∧ value = .table "table" lookups.tables) ∨
      (name = "to" ∧ value = .net (some family)) ∨ (name = "via" ∧ value = .address (some family)) := by
  have hname := SortedMap.exists_find?_iff.mp ⟨value, h⟩
  rw [routeParams_eq] at h hname
  simp only [SortedMap.keys_cons, SortedMap.keys_nil, List.mem_cons, List.not_mem_nil, or_false] at hname
  rcases hname with rfl | rfl | rfl | rfl | rfl | rfl
  all_goals
    obtain rfl := Option.some.inj h
    simp

/-- What a word stands for is a value that its parameter can have. -/
theorem ValueOf.routeValue (h : ValueOf (Show.routeParams lookups family) net name word v) :
    RouteValue family name v := by
  obtain ⟨value, hfind, hparse⟩ := h
  rcases routeParams_cases hfind with
    ⟨rfl, rfl⟩ | ⟨rfl, rfl⟩ | ⟨rfl, rfl⟩ | ⟨rfl, rfl⟩ | ⟨rfl, rfl⟩ | ⟨rfl, rfl⟩
  · obtain ⟨index, rfl⟩ := exists_link_of_links hparse
    exact .dev word index
  · obtain ⟨id, -, rfl⟩ := exists_id_of_table hparse
    exact .proto id
  · obtain ⟨id, -, rfl⟩ := exists_id_of_table hparse
    exact .scope id
  · obtain ⟨id, -, rfl⟩ := exists_id_of_table hparse
    exact .table id
  · obtain ⟨p, -, rfl, hfamily⟩ := exists_prefix_of_net hparse
    exact .to hfamily
  · obtain ⟨a, -, rfl, hfamily⟩ := exists_addr_of_address hparse
    exact .via hfamily

/-- Only for interfaces programs are asked. -/
theorem runs_of_routeParams {value : Completer}
    (hfind : (Show.routeParams lookups family).find? name = some value) (hne : name ≠ "dev")
    (word : String) : (value.parse net word).runs = [] := by
  rcases routeParams_cases hfind with ⟨rfl, -⟩ | ⟨-, rfl⟩ | ⟨-, rfl⟩ | ⟨-, rfl⟩ | ⟨-, rfl⟩ | ⟨-, rfl⟩
  · exact absurd rfl hne
  all_goals rfl

end Values

/-! ### From values to arguments -/

/-- The parameters in the order in which they are passed on, with the keywords for them. -/
def selectorOrder : List (String × List String) :=
  [("table", ["table"]), ("dev", ["dev"]), ("via", ["via"]), ("to", ["to", "match"]), ("proto", ["proto"]),
    ("scope", ["scope"])]

/-- The arguments for the parameters that have a value: their keywords, each with the written form of the
value behind it. -/
def selectors (values : String → Option Value) : List String :=
  selectorOrder.flatMap fun e => (values e.1).elim [] fun v => e.2 ++ [v.display]

/-- The arguments by which `ip` enters a namespace. -/
def Network.insideArgs : Option String → List String
  | none => []
  | some name => ["-n", name]

section Arguments

variable {family : Family} {named : SortedMap String Value}

/-- A field that has the written form of a value is passed on in this form. -/
theorem wordArgs_bind {value? : Option Value} {field : Value → Option String} (words : List String)
    (h : ∀ v, value? = some v → field v = some v.display) :
    Network.wordArgs words (value?.bind field) = value?.elim [] fun v => words ++ [v.display] := by
  cases value? with
  | none => rfl
  | some v =>
    rw [Option.bind_some, h v rfl]
    rfl

/-- The field of a selection into which a value is entered has the written form of the value. -/
theorem RouteValue.field_eq {name : String} {v : Value} (h : RouteValue family name v) :
    (name = "dev" → v.asText = some v.display) ∧
      (name = "via" → (Show.addrOf v).map IpAddr.text = some v.display) ∧
      (name = "to" → (Show.netOf v).map Prefix.text = some v.display) ∧
      (name ∈ ["table", "proto", "scope"] → v.asId.map toString = some v.display) := by
  cases h <;> simp [Value.asText, Value.asId, Value.display, Show.addrOf, Show.netOf]

/-- A selection is passed on with the selectors of its values, none of which is lost. -/
theorem routeArgs_selection (h : ∀ name v, named.find? name = some v → RouteValue family name v) :
    Network.routeArgs (Show.routeSelection family named) =
      Network.familyArgs (some family) ++ ["route", "show"] ++ selectors named.find? := by
  have hdev := fun v hv => (h "dev" v hv).field_eq.1 rfl
  have hvia := fun v hv => (h "via" v hv).field_eq.2.1 rfl
  have hto := fun v hv => (h "to" v hv).field_eq.2.2.1 rfl
  have htable := fun v hv => (h "table" v hv).field_eq.2.2.2 (by simp)
  have hproto := fun v hv => (h "proto" v hv).field_eq.2.2.2 (by simp)
  have hscope := fun v hv => (h "scope" v hv).field_eq.2.2.2 (by simp)
  simp only [Network.routeArgs, Show.routeSelection, Option.map_bind, Function.comp_def,
    wordArgs_bind _ hdev, wordArgs_bind _ hvia, wordArgs_bind _ hto, wordArgs_bind _ htable,
    wordArgs_bind _ hproto, wordArgs_bind _ hscope, selectors, selectorOrder, List.flatMap_cons,
    List.flatMap_nil, List.append_nil, List.append_assoc]
  rfl

end Arguments

/-! ### Asking for routes -/

section Asking

variable {net : Network} {ip bridge : String} {respond : Responder} {sel : RouteSelection} {run : Run}

/-- A tool that replies was run once. -/
theorem Network.report_runs {α : Type} {ns : Option String} {exe : String} {args : List String}
    {entry : Json → Option α} {reply : Reply}
    (h : respond ⟨exe, insideArgs ns ++ "-j" :: args⟩ = .ok reply) :
    (report respond ns exe args entry).runs = [⟨exe, insideArgs ns ++ "-j" :: args⟩] := by
  cases ns with
  | none | some _ =>
    simp only [insideArgs] at h
    simp only [report, h]
    rfl

/-- A tool that cannot be started was not run. -/
theorem Network.report_error {α : Type} {ns : Option String} {exe : String} {args : List String}
    {entry : Json → Option α} {e : OsError}
    (h : respond ⟨exe, insideArgs ns ++ "-j" :: args⟩ = .error e) :
    report respond ns exe args entry = ⟨.error (.cannotRun exe e), []⟩ := by
  cases ns with
  | none | some _ =>
    simp only [insideArgs] at h
    simp only [report, h]
    rfl

/-- Routes are asked for with one run of `ip`, or `ip` cannot be started. -/
theorem Network.routes_tools (hsource : net.source = .tools ip bridge respond)
    (hrun : run = ⟨ip, insideArgs net.active? ++ "-j" :: routeArgs sel⟩) :
    (∀ reply, respond run = .ok reply → (net.routes sel).runs = [run]) ∧
      ∀ e, respond run = .error e → net.routes sel = ⟨.error (.cannotRun ip e), []⟩ := by
  subst hrun
  constructor
  · intro reply hreply
    simp only [routes, hsource, Logged.runs_bind, report_runs hreply, Logged.runs_pure, List.append_nil]
  · intro e herror
    simp only [routes, hsource, report_error herror]
    rfl

end Asking

/-! ### The command -/

/-- The families that have routes, with their words in the commands and the options of `ip` for them. -/
def routeFamilies : List (String × Family × String) := [("ip", .v4, "-4"), ("ipv6", .v6, "-6")]

section Command

variable {lookups : Lookups} {family : Family} {net : Network} {pairs pairs' : List (String × String)}
  {named : SortedMap String Value} {runs : List Run}

theorem route_of_mem_families (tools : Toolbox) (lookups : Lookups) {word option : String}
    (h : (word, family, option) ∈ routeFamilies) :
    (["show", word, "route"], Show.route lookups family) ∈ builtinCommands tools lookups ∧
      Network.familyArgs (some family) = [option] := by
  simp only [routeFamilies, List.mem_cons, Prod.mk.injEq, List.not_mem_nil, or_false] at h
  rcases h with ⟨rfl, rfl, rfl⟩ | ⟨rfl, rfl, rfl⟩
  · exact ⟨by simp [builtinCommands, familyCommands], rfl⟩
  · exact ⟨by simp [builtinCommands, familyCommands], rfl⟩

/-- Pairs in another order are checked with the same answer, and the same programs are run for that. -/
theorem route_validate_of_perm (h : ReadsPairs (Show.routeParams lookups family) net [] pairs runs named)
    (hperm : pairs'.Perm pairs) :
    (Show.route lookups family).validate net (ofPairs pairs') = ⟨.ok ⟨none, named⟩, runs⟩ := by
  have hasking : ∀ name value, (Show.routeParams lookups family).find? name = some value → name ≠ "dev" →
      ∀ word, (value.parse net word).runs = [] :=
    fun name value hfind hne word => runs_of_routeParams hfind hne word
  exact (h.perm hasking hperm.symm List.Pairwise.nil).pairsFrom_eq 0

/-- The command asks for routes once and makes a table of what it finds. -/
theorem run_route (lookups : Lookups) (family : Family) (env : Environment) (inv : Invocation) (w : World) :
    ((Show.route lookups family).execute env inv).run.run w =
      let found := w.network.routes (Show.routeSelection family inv.parsed.named)
      ((found.value.mapError .query).map Show.routeTable, w.asked found.runs) := by
  simp only [Show.route]
  rw [Shell.run_bind_return, Action.run_query]

/-- The command asks for routes once and shows what it finds. The arguments have no part in that but for the
values of the parameters. -/
theorem exists_route_table (lookups : Lookups) (family : Family) :
    ∃ table : List Route → Output, ∀ env inv w,
      ((Show.route lookups family).execute env inv).run.run w =
        let found := w.network.routes (Show.routeSelection family inv.parsed.named)
        ((found.value.mapError .query).map table, w.asked found.runs) :=
  ⟨Show.routeTable, run_route lookups family⟩

end Command

namespace Shell

/-- **The parameters of routes may be given in any order, and each of them reaches `ip`.** A shell is built
whatever tools were found. In every world, take a line that types `show ip route` or `show ipv6 route` with
arguments that are accepted. They are pairs of a parameter and a word, each parameter at most once, and the
parameters have the values of their words, among them only addresses and networks of the family.

Then every line that types the same pairs in another order is checked with the same answer, asks the same
questions and fails or answers the same. If the network is read through tools, the question for the routes
is one run of `ip`: in the active namespace, with the option of the family, and behind `route show` with
exactly the parameters that were given, in a fixed order and each with the written form of its value. Or
`ip` cannot be started, and the line fails for that reason. -/
theorem route_parameters_free_of_order (config : Config) (tools : Toolbox) (lookups : Lookups)
    (disk : Disk) (launcher : Launcher) :
    ∃ s, build config tools lookups disk launcher = .ok s ∧
      ∀ word family option, (word, family, option) ∈ routeFamilies →
        ∀ w line c args chain, Types s line c ["show", word, "route"] args chain →
          Accepts (c.validate w.network args) →
          ∃ pairs named, args = ofPairs pairs ∧ (pairs.map Prod.fst).Nodup ∧
            (∀ name v, named.find? name = some v ↔ ∃ typed, (name, typed) ∈ pairs ∧
              ValueOf (Show.routeParams lookups family) w.network name typed v) ∧
            (∀ name v, named.find? name = some v → RouteValue family name v) ∧
            ∃ checks asked answer,
              (∀ pairs' line', pairs'.Perm pairs →
                Types s line' c ["show", word, "route"] (ofPairs pairs') chain →
                ∀ inv, inv = ⟨["show", word, "route"], ofPairs pairs', ⟨none, named⟩⟩ →
                  c.validate w.network inv.args = ⟨.ok inv.parsed, checks⟩ ∧
                  (s.dispatch line').run.run w = (answer,
                    ((w.asked checks).noted [.executed inv chain.filters.length]).asked asked)) ∧
              ∀ ip bridge respond, w.network.source = .tools ip bridge respond →
                ∀ run, run = ⟨ip, Network.insideArgs w.network.active? ++ "-j" :: option :: "route" ::
                    "show" :: selectors named.find?⟩ →
                  (∀ reply, respond run = .ok reply → asked = [run]) ∧
                  ∀ e, respond run = .error e →
                    asked = [] ∧ answer = .error (.query (.cannotRun ip e)) := by
  obtain ⟨s, hbuild, hs, -, rfl⟩ := exists_build config tools lookups disk launcher
  refine ⟨s, hbuild, fun word family option hfamily w line c args chain htypes haccepts => ?_⟩
  obtain ⟨hmem, hoption⟩ := route_of_mem_families s.tools lookups hfamily
  obtain rfl : Show.route lookups family = c := builtin_unique hmem (hs.mem_of_types htypes)
  obtain ⟨parsed, hparsed⟩ := haccepts
  obtain ⟨pairs, checks, named, rfl, rfl, hreads⟩ := exists_readsPairs hparsed
  have hfind : ∀ name v, named.find? name = some v ↔ ∃ typed, (name, typed) ∈ pairs ∧
      ValueOf (Show.routeParams lookups family) w.network name typed v :=
    fun name v => hreads.find?_iff.trans (or_iff_right (by simp))
  have hvalues : ∀ name v, named.find? name = some v → RouteValue family name v := by
    intro name v hv
    obtain ⟨typed, -, hvalue⟩ := (hfind name v).mp hv
    exact hvalue.routeValue
  obtain ⟨table, htable⟩ := exists_route_table lookups family
  refine ⟨pairs, named, rfl, hreads.nodup.1, hfind, hvalues, checks,
    (w.network.routes (Show.routeSelection family named)).runs,
    (((w.network.routes (Show.routeSelection family named)).value.mapError .query).map table).map
      chain.apply, ?_, ?_⟩
  · rintro pairs' line' hperm htypes' inv rfl
    have hvalidate := route_validate_of_perm hreads hperm
    refine ⟨hvalidate, ?_⟩
    have hreach := htypes'.reaches (congrArg Logged.value hvalidate)
    rw [hvalidate] at hreach
    rw [hreach.run_dispatch, run_bind_return, htable]
    rfl
  · rintro ip bridge respond hsource run rfl
    obtain ⟨hreply, herror⟩ := Network.routes_tools hsource rfl
    rw [routeArgs_selection hvalues, hoption] at hreply herror
    refine ⟨hreply, fun e he => ?_⟩
    rw [herror e he]
    exact ⟨rfl, rfl⟩

/-- A protocol and a scope, given in one order and in the other one: `ip` is run the same, with both of them. -/
theorem protocol_and_scope_in_any_order :
    let run : Run := ⟨"ip", ["-j", "-4", "route", "show", "proto", "4", "scope", "253"]⟩
    let w : World := .start ⟨.tools "ip" "bridge" fun _ => .ok ⟨[], [], .exited 0⟩, none⟩
    ∃ s, bare = .ok s ∧ ∃ answer, ∃ v v' : World,
      (s.dispatch "show ip route proto static scope link".toList).run.run w = (answer, v.asked [run]) ∧
      (s.dispatch "show ip route scope link proto static".toList).run.run w = (answer, v'.asked [run]) := by
  intro run w
  obtain ⟨s, hbare, hroutes⟩ : ∃ s, bare = .ok s ∧ _ := route_parameters_free_of_order _ _ _ _ _
  have hmem : (["show", "ip", "route"], Show.route .builtin .v4) ∈ builtinCommands s.tools .builtin :=
    (route_of_mem_families s.tools .builtin List.mem_cons_self).1
  have hline := (isBuiltin_of_bare hbare).types_ofWords hmem ["proto", "static", "scope", "link"]
  have hline' := (isBuiltin_of_bare hbare).types_ofWords hmem ["scope", "link", "proto", "static"]
  rw [show Line.ofWords (["show", "ip", "route"] ++ ["proto", "static", "scope", "link"]) =
    "show ip route proto static scope link".toList by decide] at hline
  rw [show Line.ofWords (["show", "ip", "route"] ++ ["scope", "link", "proto", "static"]) =
    "show ip route scope link proto static".toList by decide] at hline'
  have haccepts : Accepts ((Show.route .builtin .v4).validate w.network ["proto", "static", "scope", "link"]) :=
    ⟨_, rfl⟩
  obtain ⟨pairs, named, hpairs, -, hfind, -, checks, asked, answer, hperm, hasked⟩ :=
    hroutes "ip" .v4 "-4" List.mem_cons_self w _ _ _ _ hline haccepts
  obtain rfl : [("proto", "static"), ("scope", "link")] = pairs := ofPairs_injective hpairs
  have hproto : named.find? "proto" = some (.id 4) := (hfind _ _).mpr ⟨"static", by simp, _, rfl, rfl⟩
  have hscope : named.find? "scope" = some (.id 253) := (hfind _ _).mpr ⟨"link", by simp, _, rfl, rfl⟩
  have hnone : ∀ name, name ≠ "proto" → name ≠ "scope" → named.find? name = none := by
    intro name hproto hscope
    refine Option.eq_none_iff_forall_ne_some.mpr fun v hv => ?_
    obtain ⟨typed, hmem, -⟩ := (hfind name v).mp hv
    simp [hproto, hscope] at hmem
  have hselectors : selectors named.find? = ["proto", "4", "scope", "253"] := by
    rw [selectors, selectorOrder]
    simp only [List.flatMap_cons, List.flatMap_nil, hproto, hscope, hnone "table" (by decide) (by decide),
      hnone "dev" (by decide) (by decide), hnone "via" (by decide) (by decide), hnone "to" (by decide) (by decide)]
    rfl
  obtain rfl : asked = [run] :=
    (hasked "ip" "bridge" _ rfl run (by rw [hselectors]; rfl)).1 _ rfl
  exact ⟨s, hbare, answer, _, _, (hperm _ _ (.refl _) hline _ rfl).2,
    (hperm [("scope", "link"), ("proto", "static")] _ (.swap _ _ _) hline' _ rfl).2⟩

end Shell

end RouterShell
