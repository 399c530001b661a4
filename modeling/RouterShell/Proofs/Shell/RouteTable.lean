import RouterShell.Proofs.Shell.RouteSelection
import RouterShell.Proofs.Shell.Success

/-!
# The table of routes

What `show ip route` and `show ipv6 route` show of a network in memory. The parameters of the line go through
named values and a selection before a route is looked at, and the routes that are found are sorted. This module
says which routes come out, and in which order, in terms of the words of the line.

## The model

`Selects` is what one parameter asks of a route, `HasTable` says to which table a route belongs, and `Picked`
puts together what a list of parameters asks. `StablySorted` is the order of the table: by destination, routes
to one destination as they are held.

## What is proved

A route is found exactly if it is picked by the words of the accepted pairs (`ReadsPairs.exists_picks`).
Sorting is stable (`stablySorted_sortRoutes`), and there is only one stable order (`StablySorted.eq`), so
leaving out routes before or after it makes no difference (`StablySorted.filter`). `routes_under_all_selectors`
follows: what two lists of parameters select together is what both of them show.
-/

namespace RouterShell

/-! ### The order of destinations -/

section Order

theorem IpAddr.le_total (a b : IpAddr) : a.le b ∨ b.le a := by
  cases a <;> cases b <;> simp [le, Nat.le_total]

theorem IpAddr.le_refl (a : IpAddr) : a.le a :=
  (le_total a a).elim id id

theorem IpAddr.le_trans (a b c : IpAddr) (hab : a.le b) (hbc : b.le c) : a.le c := by
  cases a <;> cases b <;> cases c <;> simp [le] at *
  all_goals omega

theorem IpAddr.le_antisymm (a b : IpAddr) (hab : a.le b) (hba : b.le a) : a = b := by
  cases a <;> cases b <;> simp [le] at *
  all_goals exact BitVec.eq_of_toNat_eq (Nat.le_antisymm hab hba)

/-- Destinations are ordered by address, and by length under one address. -/
theorem Prefix.le_iff {p q : Prefix} :
    p.le q ↔ p.addr.le q.addr ∧ (p.addr = q.addr → p.len ≤ q.len) := by
  unfold le
  split
  · next heq => simp [heq, IpAddr.le_refl]
  · next hne => simp [hne]

theorem Prefix.le_refl (p : Prefix) : p.le p :=
  le_iff.mpr ⟨IpAddr.le_refl _, fun _ => Nat.le_refl _⟩

theorem Prefix.le_total (p q : Prefix) : p.le q ∨ q.le p := by
  rw [le_iff, le_iff]
  by_cases heq : p.addr = q.addr
  · rw [heq]
    exact (Nat.le_total p.len q.len).imp (fun h => ⟨IpAddr.le_refl _, fun _ => h⟩)
      fun h => ⟨IpAddr.le_refl _, fun _ => h⟩
  · exact (IpAddr.le_total p.addr q.addr).imp (fun h => ⟨h, fun heq' => absurd heq' heq⟩)
      fun h => ⟨h, fun heq' => absurd heq'.symm heq⟩

theorem Prefix.le_trans (p q r : Prefix) (hpq : p.le q) (hqr : q.le r) : p.le r := by
  rw [le_iff] at hpq hqr ⊢
  refine ⟨IpAddr.le_trans _ _ _ hpq.1 hqr.1, fun heq => ?_⟩
  -- if the ends have one address, so has the one between them
  have hbetween : p.addr = q.addr := IpAddr.le_antisymm _ _ hpq.1 (heq ▸ hqr.1)
  exact (hpq.2 hbetween).trans (hqr.2 (hbetween.symm.trans heq))

theorem Prefix.le_antisymm (p q : Prefix) (hpq : p.le q) (hqp : q.le p) : p = q := by
  rw [le_iff] at hpq hqp
  have haddr : p.addr = q.addr := IpAddr.le_antisymm _ _ hpq.1 hqp.1
  have hlen : p.len = q.len := Nat.le_antisymm (hpq.2 haddr) (hqp.2 haddr.symm)
  obtain ⟨addr, len, _, _⟩ := p
  obtain ⟨addr', len', _, _⟩ := q
  obtain rfl : addr = addr' := haddr
  obtain rfl : len = len' := hlen
  rfl

end Order

/-! ### Stable sorting -/

/-- Routes are sorted by destination, and those to one destination keep their order. -/
structure StablySorted (routes sorted : List Route) : Prop where
  /-- No route is lost or there twice. -/
  perm : sorted.Perm routes
  /-- Destinations are in order. -/
  ordered : sorted.Pairwise fun a b => a.dst.le b.dst
  /-- The routes to a destination are as before. -/
  stable : ∀ dst, sorted.filter (·.dst = dst) = routes.filter (·.dst = dst)

section Sorted

variable {routes sorted sorted' : List Route}

theorem stablySorted_sortRoutes (routes : List Route) : StablySorted routes (Show.sortRoutes routes) := by
  have htrans : ∀ a b c : Route, a.dst.le b.dst → b.dst.le c.dst → a.dst.le c.dst :=
    fun a b c => Prefix.le_trans a.dst b.dst c.dst
  have htotal : ∀ a b : Route, a.dst.le b.dst || b.dst.le a.dst :=
    fun a b => Bool.or_eq_true_iff.mpr (Prefix.le_total a.dst b.dst)
  have hperm : (Show.sortRoutes routes).Perm routes := List.mergeSort_perm routes _
  refine ⟨hperm, List.pairwise_mergeSort htrans htotal routes, fun dst => ?_⟩
  -- the routes to one destination are a sorted part of the routes, which sorting keeps together
  have hsorted : (routes.filter (·.dst = dst)).Pairwise fun a b => a.dst.le b.dst := by
    rw [List.pairwise_filter]
    refine List.pairwise_of_forall fun a b ha hb => ?_
    rw [of_decide_eq_true ha, of_decide_eq_true hb]
    exact Prefix.le_refl dst
  have hpart : (routes.filter (·.dst = dst)).Sublist (Show.sortRoutes routes) :=
    List.sublist_mergeSort htrans htotal hsorted List.filter_sublist
  have hkept := hpart.filter (·.dst = dst)
  simp only [List.filter_filter, Bool.and_self] at hkept
  exact (hkept.eq_of_length (hperm.filter _).length_eq.symm).symm

/-- The first of sorted routes has the least destination. -/
theorem dst_le_of_mem {first r : Route} {others : List Route}
    (h : (first :: others).Pairwise fun a b => a.dst.le b.dst) (hr : r ∈ first :: others) :
    first.dst.le r.dst := by
  rcases List.mem_cons.mp hr with rfl | hr
  · exact Prefix.le_refl _
  · exact (List.pairwise_cons.mp h).1 r hr

theorem mem_iff_of_filter_dst_eq
    (heq : ∀ dst, sorted.filter (·.dst = dst) = sorted'.filter (·.dst = dst)) (r : Route) :
    r ∈ sorted ↔ r ∈ sorted' := by
  have hr := congrArg (r ∈ ·) (heq r.dst)
  simpa only [List.mem_filter, decide_true, and_true, eq_iff_iff] using hr

/-- Sorted routes that are the same to each destination are the same. -/
theorem eq_of_filter_dst_eq (h : sorted.Pairwise fun a b => a.dst.le b.dst)
    (h' : sorted'.Pairwise fun a b => a.dst.le b.dst)
    (heq : ∀ dst, sorted.filter (·.dst = dst) = sorted'.filter (·.dst = dst)) : sorted = sorted' := by
  induction sorted generalizing sorted' with
  | nil =>
    cases sorted' with
    | nil => rfl
    | cons b u => exact absurd ((mem_iff_of_filter_dst_eq heq b).mpr List.mem_cons_self) List.not_mem_nil
  | cons a t ih =>
    cases sorted' with
    | nil => exact absurd ((mem_iff_of_filter_dst_eq heq a).mp List.mem_cons_self) List.not_mem_nil
    | cons b u =>
      have hmem := mem_iff_of_filter_dst_eq heq
      have hdst : a.dst = b.dst := Prefix.le_antisymm _ _
        (dst_le_of_mem h ((hmem b).mpr List.mem_cons_self))
        (dst_le_of_mem h' ((hmem a).mp List.mem_cons_self))
      -- both come first among the routes to their destination
      obtain rfl : a = b := by
        have hfirst := heq b.dst
        simp only [List.filter_cons, hdst, decide_true, if_true] at hfirst
        exact (List.cons.inj hfirst).1
      have hothers : ∀ dst, t.filter (·.dst = dst) = u.filter (·.dst = dst) := by
        intro dst
        have hdst := heq dst
        simp only [List.filter_cons] at hdst
        split at hdst
        · exact (List.cons.inj hdst).2
        · exact hdst
      rw [ih (List.pairwise_cons.mp h).2 (List.pairwise_cons.mp h').2 hothers]

/-- There is one stable order. -/
theorem StablySorted.eq (h : StablySorted routes sorted) (h' : StablySorted routes sorted') :
    sorted = sorted' :=
  eq_of_filter_dst_eq h.ordered h'.ordered fun dst => (h.stable dst).trans (h'.stable dst).symm

/-- Routes may be left out before they are sorted or afterwards. -/
theorem StablySorted.filter (h : StablySorted routes sorted) (keep : Route → Bool) :
    StablySorted (routes.filter keep) (sorted.filter keep) where
  perm := h.perm.filter keep
  ordered := h.ordered.filter _
  stable dst := by
    rw [List.filter_comm, h.stable, List.filter_comm]

end Sorted

/-! ### What parameters ask of a route -/

/-- The table of a route: the one of its number or built-in name, or the main table if it names none or an
unknown one. -/
inductive Route.InTable (r : Route) : Nat → Prop where
  /-- The name or number is known. -/
  | known {name : String} {id : Nat} :
      r.table = some name → Lookups.builtin.tables.id? name = some id → r.InTable id
  /-- There is none, or it is unknown. -/
  | main : (∀ name, r.table = some name → Lookups.builtin.tables.id? name = none) → r.InTable 254

/-- What a parameter asks of a route, by the word that is given for it. Words for protocols, scopes and tables
are looked up in the tables of the shell, those of the route in the built-in ones. Table 0 stands for all. -/
def Route.Suits (lookups : Lookups) (r : Route) (word : String) : String → Prop
  | "dev" => r.dev = some word
  | "via" => ∃ a, IpAddr.read word = some a ∧ r.gateway = some a
  | "to" => Prefix.read word = .ok r.dst
  | "proto" => ∃ id, lookups.protocols.id? word = some id ∧
      Lookups.builtin.protocols.id? r.protocol = some id
  | "scope" => ∃ id, lookups.scopes.id? word = some id ∧ Lookups.builtin.scopes.id? r.scope = some id
  | "table" => ∃ id, lookups.tables.id? word = some id ∧ (id = 0 ∨ r.InTable id)
  | _ => False

/-- A route of the family that suits all parameters. The main table is asked for if no table is named. -/
structure Route.Picked (lookups : Lookups) (family : Family) (pairs : List (String × String)) (r : Route) :
    Prop where
  /-- The destination is of the family. -/
  family : r.dst.family = family
  /-- It suits the parameters. -/
  suits : ∀ name word, (name, word) ∈ pairs → r.Suits lookups word name
  /-- It is in the main table unless a table is named. -/
  main : "table" ∉ pairs.map Prod.fst → r.InTable 254

section Tables

variable {r : Route} {id : Nat}

theorem Route.inTable_iff : r.InTable id ↔ NamespaceState.tableId r = id := by
  unfold NamespaceState.tableId
  constructor
  · rintro (⟨htable, hid⟩ | hunknown)
    · rw [htable, Option.bind_some, hid, Option.getD_some]
    · rw [Option.bind_eq_none_iff.mpr hunknown]
      rfl
  · intro hid
    cases hfind : r.table.bind Lookups.builtin.tables.id? with
    | none =>
      rw [hfind] at hid
      exact hid ▸ .main (Option.bind_eq_none_iff.mp hfind)
    | some id' =>
      rw [hfind] at hid
      obtain ⟨name, htable, hid'⟩ := Option.bind_eq_some_iff.mp hfind
      exact hid ▸ .known htable hid'

theorem Route.inTable_none : NamespaceState.inTable none r ↔ r.InTable 254 :=
  beq_iff_eq.trans inTable_iff.symm

theorem Route.inTable_some : NamespaceState.inTable (some id) r ↔ id = 0 ∨ r.InTable id := by
  cases id with
  | zero => simp [NamespaceState.inTable]
  | succ id => simp [NamespaceState.inTable, inTable_iff]

end Tables

section Picking

variable {lookups : Lookups} {family : Family} {net : Network} {pairs : List (String × String)}
  {runs : List Run} {named : SortedMap String Value}

/-- What a word asks of a route is said by the field of a selection into which its value is entered. -/
theorem ValueOf.suits_iff {name word : String} {v : Value}
    (h : ValueOf (Show.routeParams lookups family) net name word v) (r : Route) :
    (name = "dev" → ∃ a, v.asText = some a ∧ (r.Suits lookups word name ↔ r.dev = some a)) ∧
      (name = "via" → ∃ a, Show.addrOf v = some a ∧ (r.Suits lookups word name ↔ r.gateway = some a)) ∧
      (name = "to" → ∃ p, Show.netOf v = some p ∧ (r.Suits lookups word name ↔ some r.dst = some p)) ∧
      (name = "proto" → ∃ id, v.asId = some id ∧
        (r.Suits lookups word name ↔ Lookups.builtin.protocols.id? r.protocol = some id)) ∧
      (name = "scope" → ∃ id, v.asId = some id ∧
        (r.Suits lookups word name ↔ Lookups.builtin.scopes.id? r.scope = some id)) ∧
      (name = "table" → ∃ id, v.asId = some id ∧
        (r.Suits lookups word name ↔ id = 0 ∨ r.InTable id)) := by
  obtain ⟨value, hfind, hparse⟩ := h
  rcases routeParams_cases hfind with
    ⟨rfl, rfl⟩ | ⟨rfl, rfl⟩ | ⟨rfl, rfl⟩ | ⟨rfl, rfl⟩ | ⟨rfl, rfl⟩ | ⟨rfl, rfl⟩
  · obtain ⟨index, rfl⟩ := exists_link_of_links hparse
    simp [Value.asText, Route.Suits]
  · obtain ⟨id, hid, rfl⟩ := exists_id_of_table hparse
    simp [Value.asId, Route.Suits, hid]
  · obtain ⟨id, hid, rfl⟩ := exists_id_of_table hparse
    simp [Value.asId, Route.Suits, hid]
  · obtain ⟨id, hid, rfl⟩ := exists_id_of_table hparse
    simp [Value.asId, Route.Suits, hid]
  · obtain ⟨p, hread, rfl, -⟩ := exists_prefix_of_net hparse
    simp [Show.netOf, Route.Suits, hread, eq_comm]
  · obtain ⟨a, hread, rfl, -⟩ := exists_addr_of_address hparse
    simp [Show.addrOf, Route.Suits, hread]

/-- A condition of a selection is what the words for its parameter ask. -/
theorem ReadsPairs.meets_iff {params : SortedMap String Completer} {α : Type} [DecidableEq α]
    {field : Value → Option α} {x : Option α} {name : String} {P : String → Prop}
    (h : ReadsPairs params net [] pairs runs named)
    (hfield : ∀ word v, ValueOf params net name word v → ∃ a, field v = some a ∧ (P word ↔ x = some a)) :
    meets ((named.find? name).bind field) x ↔ ∀ word, (name, word) ∈ pairs → P word := by
  rcases h.find?_cases name with ⟨hnot, hfind⟩ | ⟨word, v, hword, hfind, hv⟩
  · rw [hfind]
    exact iff_of_true rfl fun word hmem => absurd (List.mem_map_of_mem (f := Prod.fst) hmem) hnot
  · obtain ⟨a, ha, hP⟩ := hfield word v hv
    rw [hfind, Option.bind_some, ha]
    simp only [hword, forall_eq, hP]
    exact decide_eq_true_iff

/-- A route is in the tables of a selection if the word for the table asks for it, or if there is none and the
route is in the main table. -/
theorem ReadsPairs.inTable_iff (h : ReadsPairs (Show.routeParams lookups family) net [] pairs runs named)
    (r : Route) :
    NamespaceState.inTable ((named.find? "table").bind Value.asId) r ↔
      (∀ word, ("table", word) ∈ pairs → r.Suits lookups word "table") ∧
        ("table" ∉ pairs.map Prod.fst → r.InTable 254) := by
  rcases h.find?_cases "table" with ⟨hnot, hfind⟩ | ⟨word, v, hword, hfind, hv⟩
  · rw [hfind, Option.bind_none, Route.inTable_none]
    exact ⟨fun hmain => ⟨fun word hmem => absurd (List.mem_map_of_mem (f := Prod.fst) hmem) hnot,
      fun _ => hmain⟩, fun h => h.2 hnot⟩
  · have hnamed : "table" ∈ pairs.map Prod.fst :=
      List.mem_map_of_mem (f := Prod.fst) ((hword word).mpr rfl)
    obtain ⟨id, hid, hsuits⟩ := (hv.suits_iff r).2.2.2.2.2 rfl
    rw [hfind, Option.bind_some, hid, Route.inTable_some, ← hsuits]
    simp only [hword, forall_eq, not_true_eq_false, hnamed, false_implies, and_true]

/-- A route is found for accepted pairs exactly if it is picked by their words. -/
theorem ReadsPairs.exists_picks (h : ReadsPairs (Show.routeParams lookups family) net [] pairs runs named) :
    ∃ picks : Route → Bool, (∀ r, picks r ↔ r.Picked lookups family pairs) ∧
      ∀ state : NamespaceState, state.selectRoutes (Show.routeSelection family named) =
        state.routes.filter picks := by
  refine ⟨_, fun r => ?_, fun _ => rfl⟩
  have hdev := h.meets_iff fun word v hv => (hv.suits_iff r).1 rfl
  have hvia := h.meets_iff fun word v hv => (hv.suits_iff r).2.1 rfl
  have hto := h.meets_iff fun word v hv => (hv.suits_iff r).2.2.1 rfl
  have hproto := h.meets_iff fun word v hv => (hv.suits_iff r).2.2.2.1 rfl
  have hscope := h.meets_iff fun word v hv => (hv.suits_iff r).2.2.2.2.1 rfl
  simp only [Show.routeSelection, Bool.and_eq_true, hdev, hvia, hto, hproto, hscope, h.inTable_iff r,
    Family.orV4, Option.getD_some, beq_iff_eq]
  constructor
  · rintro ⟨⟨⟨⟨⟨⟨hfamily, hdev⟩, hvia⟩, hto⟩, hproto⟩, hscope⟩, htable, hmain⟩
    refine ⟨hfamily, fun name word hmem => ?_, hmain⟩
    obtain ⟨v, value, hfind, -⟩ := h.valueOf hmem
    rcases routeParams_cases hfind with ⟨rfl, -⟩ | ⟨rfl, -⟩ | ⟨rfl, -⟩ | ⟨rfl, -⟩ | ⟨rfl, -⟩ | ⟨rfl, -⟩
    · exact hdev word hmem
    · exact hproto word hmem
    · exact hscope word hmem
    · exact htable word hmem
    · exact hto word hmem
    · exact hvia word hmem
  · rintro ⟨hfamily, hsuits, hmain⟩
    exact ⟨⟨⟨⟨⟨⟨hfamily, hsuits "dev"⟩, hsuits "via"⟩, hsuits "to"⟩, hsuits "proto"⟩, hsuits "scope"⟩,
      hsuits "table", hmain⟩

/-! ### Two lists of parameters -/

/-- What two lists of parameters ask together, neither of which names a table, is what each of them asks. -/
theorem Route.picked_together_iff {pairs₁ pairs₂ : List (String × String)} {r : Route}
    (htable₁ : "table" ∉ pairs₁.map Prod.fst) (htable₂ : "table" ∉ pairs₂.map Prod.fst)
    (hperm : pairs.Perm (pairs₁ ++ pairs₂)) :
    r.Picked lookups family pairs ↔ r.Picked lookups family pairs₁ ∧ r.Picked lookups family pairs₂ := by
  have htable : "table" ∉ pairs.map Prod.fst := by
    rw [(hperm.map Prod.fst).mem_iff, List.map_append, List.mem_append, not_or]
    exact ⟨htable₁, htable₂⟩
  constructor
  · rintro ⟨hfamily, hsuits, hmain⟩
    have hsuits' : ∀ name word, (name, word) ∈ pairs₁ ++ pairs₂ → r.Suits lookups word name :=
      fun name word hmem => hsuits name word (hperm.mem_iff.mpr hmem)
    exact ⟨⟨hfamily, fun name word hmem => hsuits' name word (List.mem_append_left _ hmem),
        fun _ => hmain htable⟩,
      ⟨hfamily, fun name word hmem => hsuits' name word (List.mem_append_right _ hmem),
        fun _ => hmain htable⟩⟩
  · rintro ⟨⟨hfamily, hsuits₁, hmain⟩, ⟨-, hsuits₂, -⟩⟩
    refine ⟨hfamily, fun name word hmem => ?_, fun _ => hmain htable₁⟩
    rcases List.mem_append.mp (hperm.mem_iff.mp hmem) with hmem | hmem
    · exact hsuits₁ name word hmem
    · exact hsuits₂ name word hmem

/-- Pairs of two lists can be entered together if no name is in both of them. -/
theorem ReadsPairs.together {params : SortedMap String Completer} {pairs₁ pairs₂ : List (String × String)}
    {runs₁ runs₂ : List Run} {named₁ named₂ : SortedMap String Value}
    (h₁ : ReadsPairs params net [] pairs₁ runs₁ named₁) (h₂ : ReadsPairs params net [] pairs₂ runs₂ named₂)
    (hdisjoint : List.Disjoint (pairs₁.map Prod.fst) (pairs₂.map Prod.fst))
    (hperm : pairs.Perm (pairs₁ ++ pairs₂)) : ∃ runs named, ReadsPairs params net [] pairs runs named := by
  refine exists_readsPairs_of_nodup ?_ (fun _ _ => rfl) fun name word hmem => ?_
  · rw [(hperm.map Prod.fst).nodup_iff, List.map_append]
    exact h₁.nodup.1.append h₂.nodup.1 hdisjoint
  · rcases List.mem_append.mp (hperm.mem_iff.mp hmem) with hmem | hmem
    · exact h₁.valueOf hmem
    · exact h₂.valueOf hmem

/-! ### What is shown -/

/-- The routes that the command shows for arguments, none if it refuses them. -/
def shownRoutes (lookups : Lookups) (family : Family) (net : Network) (state : NamespaceState)
    (args : List String) : List Route :=
  match ((Show.route lookups family).validate net args).value with
  | .ok parsed => Show.sortRoutes (state.selectRoutes (Show.routeSelection family parsed.named))
  | .error _ => []

theorem ReadsPairs.shownRoutes_eq
    (h : ReadsPairs (Show.routeParams lookups family) net [] pairs runs named) (state : NamespaceState) :
    shownRoutes lookups family net state (ofPairs pairs) =
      Show.sortRoutes (state.selectRoutes (Show.routeSelection family named)) := by
  have hvalidate : (Show.route lookups family).validate net (ofPairs pairs) = ⟨.ok ⟨none, named⟩, runs⟩ :=
    h.pairsFrom_eq 0
  rw [shownRoutes, hvalidate]

/-- The routes that are picked by the words of accepted pairs are shown, in the stable order. -/
theorem ReadsPairs.stablySorted_shownRoutes
    (h : ReadsPairs (Show.routeParams lookups family) net [] pairs runs named) {picks : Route → Bool}
    (hpicks : ∀ r, picks r ↔ r.Picked lookups family pairs) (state : NamespaceState) :
    StablySorted (state.routes.filter picks) (shownRoutes lookups family net state (ofPairs pairs)) := by
  obtain ⟨picks', hpicks', hselect⟩ := h.exists_picks
  obtain rfl : picks' = picks := funext fun r => Bool.eq_iff_iff.mpr ((hpicks' r).trans (hpicks r).symm)
  rw [h.shownRoutes_eq, hselect]
  exact stablySorted_sortRoutes _

/-- What two lists of parameters show together, neither of which names a table, is what both of them show. -/
theorem shownRoutes_together {pairs₁ pairs₂ : List (String × String)} {runs₁ runs₂ : List Run}
    {named₁ named₂ : SortedMap String Value}
    (h : ReadsPairs (Show.routeParams lookups family) net [] pairs runs named)
    (h₁ : ReadsPairs (Show.routeParams lookups family) net [] pairs₁ runs₁ named₁)
    (h₂ : ReadsPairs (Show.routeParams lookups family) net [] pairs₂ runs₂ named₂)
    (htable₁ : "table" ∉ pairs₁.map Prod.fst) (htable₂ : "table" ∉ pairs₂.map Prod.fst)
    (hperm : pairs.Perm (pairs₁ ++ pairs₂)) (state : NamespaceState) :
    shownRoutes lookups family net state (ofPairs pairs) =
      (shownRoutes lookups family net state (ofPairs pairs₁)).filter
        (· ∈ shownRoutes lookups family net state (ofPairs pairs₂)) := by
  obtain ⟨picks, hpicks, -⟩ := h.exists_picks
  obtain ⟨picks₁, hpicks₁, -⟩ := h₁.exists_picks
  obtain ⟨picks₂, hpicks₂, -⟩ := h₂.exists_picks
  have hsorted₁ := h₁.stablySorted_shownRoutes hpicks₁ state
  have hsorted₂ := h₂.stablySorted_shownRoutes hpicks₂ state
  have hboth : state.routes.filter picks = (state.routes.filter picks₁).filter
      (· ∈ shownRoutes lookups family net state (ofPairs pairs₂)) := by
    rw [List.filter_filter]
    refine List.filter_congr fun r hr => Bool.eq_iff_iff.mpr ?_
    rw [hpicks r, Route.picked_together_iff htable₁ htable₂ hperm, Bool.and_eq_true, decide_eq_true_eq,
      hsorted₂.perm.mem_iff, List.mem_filter, hpicks₁ r, hpicks₂ r]
    exact ⟨fun h => ⟨⟨hr, h.2⟩, h.1⟩, fun h => ⟨h.2, h.1.2⟩⟩
  have hsorted := h.stablySorted_shownRoutes hpicks state
  rw [hboth] at hsorted
  exact hsorted.eq (hsorted₁.filter _)

end Picking

namespace Shell

/-- **The table of routes shows what suits all parameters.** A shell is built whatever tools were found. In
every world with a network in memory, whatever its active namespace holds, the routes that `show ip route` or
`show ipv6 route` shows depend on the arguments alone. Take accepted arguments: they are pairs of a parameter
and a word, and every line that types them answers a table with one row for each route shown, filtered. These
are the routes of the namespace that are picked by the words, each as often as it is held, sorted by
destination, and those to one destination in the order in which they are held.

Two lists of accepted pairs without a common parameter may be given together, in any order. If neither of them
names a table, the routes shown for them together are those shown for the one list that are shown for the
other one too. -/
theorem routes_under_all_selectors (config : Config) (tools : Toolbox) (lookups : Lookups) (disk : Disk)
    (launcher : Launcher) :
    ∃ s, build config tools lookups disk launcher = .ok s ∧
      ∀ word family option, (word, family, option) ∈ routeFamilies →
        ∀ w state, w.network.Held state →
          ∃ shown : List String → List Route,
            (∀ args, Accepts ((Show.route lookups family).validate w.network args) →
              ∃ pairs picks, args = ofPairs pairs ∧ (∀ r, picks r ↔ r.Picked lookups family pairs) ∧
                StablySorted (state.routes.filter picks) (shown args) ∧
                ∀ line c chain, Types s line c ["show", word, "route"] args chain →
                  ((s.dispatch line).run.run w).1 =
                    .ok (chain.apply (.table Show.routeHeaders ((shown args).map Show.routeRow)))) ∧
            ∀ pairs₁ pairs₂ pairs,
              Accepts ((Show.route lookups family).validate w.network (ofPairs pairs₁)) →
              Accepts ((Show.route lookups family).validate w.network (ofPairs pairs₂)) →
              List.Disjoint (pairs₁.map Prod.fst) (pairs₂.map Prod.fst) →
              pairs.Perm (pairs₁ ++ pairs₂) →
              Accepts ((Show.route lookups family).validate w.network (ofPairs pairs)) ∧
                ("table" ∉ pairs₁.map Prod.fst → "table" ∉ pairs₂.map Prod.fst →
                  shown (ofPairs pairs) =
                    (shown (ofPairs pairs₁)).filter (· ∈ shown (ofPairs pairs₂))) := by
  obtain ⟨s, hbuild, hs, -, rfl⟩ := exists_build config tools lookups disk launcher
  refine ⟨s, hbuild, fun word family option hfamily w state hheld =>
    ⟨shownRoutes lookups family w.network state, fun args haccepts => ?_, ?_⟩⟩
  · obtain ⟨parsed, hparsed⟩ := haccepts
    obtain ⟨pairs, checks, named, rfl, rfl, hreads⟩ := exists_readsPairs hparsed
    obtain ⟨picks, hpicks, -⟩ := hreads.exists_picks
    refine ⟨pairs, picks, rfl, hpicks, hreads.stablySorted_shownRoutes hpicks state,
      fun line c chain htypes => ?_⟩
    obtain ⟨hmem, -⟩ := route_of_mem_families s.tools lookups hfamily
    obtain rfl : Show.route lookups family = c := builtin_unique hmem (hs.mem_of_types htypes)
    rw [(htypes.reaches hparsed).run_dispatch_eq, run_route, hreads.shownRoutes_eq]
    simp only [network_executing, hheld.routes]
    rfl
  · intro pairs₁ pairs₂ pairs haccepts₁ haccepts₂ hdisjoint hperm
    obtain ⟨runs₁, named₁, h₁⟩ := accepts_ofPairs_iff.mp haccepts₁
    obtain ⟨runs₂, named₂, h₂⟩ := accepts_ofPairs_iff.mp haccepts₂
    obtain ⟨runs, named, h⟩ := h₁.together h₂ hdisjoint hperm
    exact ⟨accepts_ofPairs_iff.mpr ⟨runs, named, h⟩, fun htable₁ htable₂ =>
      shownRoutes_together h h₁ h₂ htable₁ htable₂ hperm state⟩

/-- Of three routes, one is static and of scope `link`. It is what both selectors show together. -/
theorem static_link_routes :
    let route (addr : BitVec 32) (len : Nat) (protocol scope : String) : Route :=
      ⟨.truncating (.v4 addr) len, none, some "eth0", none, none, protocol, scope, none, []⟩
    let state : NamespaceState := ⟨[], [], [route 0x0A000000 8 "static" "global", route 0x0A010000 16 "static" "link",
      route 0x0A020000 16 "kernel" "link"], [], [], []⟩
    let w : World := .start ⟨.memory state [], none⟩
    ∃ s, bare = .ok s ∧ ∃ shown : List String → List Route,
      (∀ args ∈ [["proto", "static"], ["scope", "link"], ["scope", "link", "proto", "static"]],
        ((s.dispatch (Line.ofWords (["show", "ip", "route"] ++ args))).run.run w).1 =
          .ok (.table Show.routeHeaders ((shown args).map Show.routeRow))) ∧
      shown ["scope", "link", "proto", "static"] = [route 0x0A010000 16 "static" "link"] ∧
      shown ["scope", "link", "proto", "static"] =
        (shown ["proto", "static"]).filter (· ∈ shown ["scope", "link"]) := by
  intro route state w
  obtain ⟨s, hbare, hroutes⟩ : ∃ s, bare = .ok s ∧ _ := routes_under_all_selectors _ _ _ _ _
  have hmem : (["show", "ip", "route"], Show.route .builtin .v4) ∈ builtinCommands s.tools .builtin :=
    (route_of_mem_families s.tools .builtin List.mem_cons_self).1
  obtain ⟨shown, hshown, htogether⟩ := hroutes "ip" .v4 "-4" List.mem_cons_self w state ⟨_, _, rfl, rfl⟩
  have haccepts : ∀ args ∈ [["proto", "static"], ["scope", "link"], ["scope", "link", "proto", "static"]],
      Accepts ((Show.route .builtin .v4).validate w.network args) := by
    simp only [List.mem_cons, List.not_mem_nil, or_false]
    rintro args (rfl | rfl | rfl) <;> exact ⟨_, rfl⟩
  have hboth : shown ["scope", "link", "proto", "static"] = [route 0x0A010000 16 "static" "link"] := by
    obtain ⟨pairs, picks, hpairs, hpicks, hsorted, -⟩ :=
      hshown _ (haccepts ["scope", "link", "proto", "static"] (by simp))
    obtain rfl : [("scope", "link"), ("proto", "static")] = pairs := ofPairs_injective hpairs
    have hpicked : picks (route 0x0A010000 16 "static" "link") = true := by
      refine (hpicks _).mpr ⟨rfl, ?_, fun _ => .main fun _ h => by cases h⟩
      simp only [List.mem_cons, Prod.mk.injEq, List.not_mem_nil, or_false]
      rintro name word (⟨rfl, rfl⟩ | ⟨rfl, rfl⟩)
      · exact ⟨253, by decide, by decide⟩
      · exact ⟨4, by decide, by decide⟩
    have hglobal : picks (route 0x0A000000 8 "static" "global") = false := by
      refine Bool.eq_false_iff.mpr fun h => ?_
      obtain ⟨id, hword, hroute⟩ := ((hpicks _).mp h).suits "scope" "link" (by simp)
      exact absurd (hword.trans hroute.symm) (by decide)
    have hkernel : picks (route 0x0A020000 16 "kernel" "link") = false := by
      refine Bool.eq_false_iff.mpr fun h => ?_
      obtain ⟨id, hword, hroute⟩ := ((hpicks _).mp h).suits "proto" "static" (by simp)
      exact absurd (hword.trans hroute.symm) (by decide)
    have hperm := hsorted.perm
    simp only [state, List.filter_cons, hglobal, hpicked, hkernel, if_true, if_false, Bool.false_eq_true,
      List.filter_nil] at hperm
    exact List.perm_singleton.mp hperm
  refine ⟨s, hbare, shown, fun args hargs => ?_, hboth, ?_⟩
  · obtain ⟨pairs, picks, -, -, -, hline⟩ := hshown args (haccepts args hargs)
    exact hline _ _ _ ((isBuiltin_of_bare hbare).types_ofWords hmem args)
  · exact (htogether [("proto", "static")] [("scope", "link")] [("scope", "link"), ("proto", "static")]
      (haccepts ["proto", "static"] (by simp)) (haccepts ["scope", "link"] (by simp)) (by simp) (.swap _ _ _)).2
      (by decide) (by decide)

end Shell

end RouterShell
