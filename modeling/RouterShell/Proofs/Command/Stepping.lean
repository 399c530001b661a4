import RouterShell.Proofs.Command.NextPair

/-!
# Steps over written words

A completer for several words finds the place of the word being typed by stepping over the words before it,
and it steps from blank to blank. The words that completers propose are written in quotes if they hold
a blank. This module compares the two: what is left of a written word when a completer has stepped over it.

## What is proved

Writing a word adds no blank to it, so a word without blanks is stepped over as a whole, whatever else there
is to quote in it (`cutAtBlank_quote`). Of a word with a blank, only the part up to this blank is stepped
over, together with the quote that opens it (`cutAtBlank_quote_blank`): the next completer gets the rest of
the word, with the closing quote, as if it were typed in its own place. `written_word_steps` says so of
completers for one word after another and of completers for pairs.
-/

namespace RouterShell

open Text Line SortedMap

/-! ### Blanks in written words -/

section Written

variable {s t w : List Char} {c : Char}

/-- A word is cut off at the blank behind it. -/
theorem cutAtBlank_word (hw : ∀ c ∈ w, isBlank c = false) (hc : isBlank c = true) (t : List Char) :
    cutAtBlank (w ++ c :: t) = some (w, c :: t) := by
  have hgo : ∀ d ∈ w, (!isBlank d) = true := fun d hd => by rw [hw d hd, Bool.not_false]
  unfold cutAtBlank
  rw [List.dropWhile_append_of_pos hgo, List.takeWhile_append_of_pos hgo]
  simp [hc]

theorem quoteInside_append (s t : List Char) : quoteInside (s ++ t) = quoteInside s ++ quoteInside t := by
  induction s with
  | nil => rfl
  | cons c s ih =>
    rw [List.cons_append, quoteInside, quoteInside]
    split
    · rw [ih]
      rfl
    · rw [ih]
      rfl

theorem quoteInside_blank (hc : isBlank c = true) (s : List Char) :
    quoteInside (c :: s) = c :: quoteInside s := by
  have hne : c ≠ '\'' := by
    rintro rfl
    exact absurd hc (by decide)
  rw [quoteInside, if_neg hne]

theorem not_blank_of_safe (h : w.all isSafe = true) : ∀ c ∈ w, isBlank c = false :=
  fun c hc => isBlank_eq_false (isSafe_range (List.all_eq_true.mp h c hc))

/-- Between quotes no blank is added. -/
theorem quoteInside_not_blank (hs : ∀ c ∈ s, isBlank c = false) : ∀ c ∈ quoteInside s, isBlank c = false := by
  induction s with
  | nil => exact hs
  | cons c s ih =>
    obtain ⟨hc, hs⟩ := List.forall_mem_cons.mp hs
    rw [quoteInside]
    split
    · have hsingle : isBlank '\'' = false := by decide
      have hdouble : isBlank '"' = false := by decide
      simp only [List.forall_mem_cons]
      exact ⟨hsingle, hdouble, hsingle, hdouble, hsingle, ih hs⟩
    · exact List.forall_mem_cons.mpr ⟨hc, ih hs⟩

/-- The blanks at the start of what stands between quotes are those of the word. -/
theorem trimStart_quoteInside (s t : List Char) :
    trimStart (quoteInside s ++ '\'' :: t) = quoteInside (trimStart s) ++ '\'' :: t := by
  induction s with
  | nil => exact trimStart_cons_of_not_blank (by decide)
  | cons c s ih =>
    cases hc : isBlank c with
    | true =>
      rw [quoteInside_blank hc, List.cons_append, trimStart, List.dropWhile_cons_of_pos hc]
      rw [trimStart] at ih
      rw [ih, trimStart, trimStart, List.dropWhile_cons_of_pos hc]
    | false =>
      rw [trimStart_cons_of_not_blank hc, quoteInside]
      split
      · exact trimStart_cons_of_not_blank (by decide)
      · exact trimStart_cons_of_not_blank hc

/-- A written word does not begin with a blank. -/
theorem trimStart_quote (v : String) (t : List Char) : trimStart (quote v ++ t) = quote v ++ t := by
  obtain ⟨c, r, hcr, hc⟩ := (word_quote v).head
  rw [hcr, List.cons_append, trimStart_cons_of_not_blank hc]

/-- A word without blanks is written without blanks, and is cut off as a whole. -/
theorem cutAtBlank_quote {v : String} (hv : ∀ c ∈ v.toList, isBlank c = false) (t : List Char) :
    cutAtBlank (quote v ++ ' ' :: t) = some (quote v, ' ' :: t) := by
  refine cutAtBlank_word ?_ (by decide) t
  have hquote : isBlank '\'' = false := by decide
  unfold quote
  dsimp only
  split
  · exact List.forall_mem_cons.mpr ⟨hquote, List.forall_mem_singleton.mpr hquote⟩
  · split
    · exact hv
    · exact List.forall_mem_cons.mpr ⟨hquote,
        List.forall_mem_append.mpr ⟨quoteInside_not_blank hv, List.forall_mem_singleton.mpr hquote⟩⟩

/-- A word with a blank is written in quotes, and cut in two at its first blank. -/
theorem cutAtBlank_quote_blank {v : String} {a s : List Char} (hv : v.toList = a ++ c :: s)
    (ha : ∀ d ∈ a, isBlank d = false) (hc : isBlank c = true) (t : List Char) :
    cutAtBlank (quote v ++ t) = some ('\'' :: quoteInside a, c :: (quoteInside s ++ '\'' :: t)) := by
  have hsafe : ¬ v.toList.all isSafe = true := by
    intro hall
    have hmem : c ∈ v.toList := by rw [hv]; simp
    have hcs := not_blank_of_safe hall c hmem
    rw [hc] at hcs
    cases hcs
  have hne : ¬ v.toList.isEmpty = true := by rw [hv]; simp
  have hquote : quote v ++ t = ('\'' :: quoteInside a) ++ c :: (quoteInside s ++ '\'' :: t) := by
    rw [quote, if_neg hne, if_neg hsafe, hv, quoteInside_append, quoteInside_blank hc]
    simp
  rw [hquote]
  exact cutAtBlank_word (List.forall_mem_cons.mpr ⟨by decide, quoteInside_not_blank ha⟩) hc _

end Written

/-! ### One word after another -/

namespace Complete

section Steps

variable {first rest : List Char → Logged (List Candidate)} {v : String} {t : List Char}

theorem peerCandidates_of_cut {text word after : List Char} (h : trimStart text = text)
    (hcut : cutAtBlank text = some (word, after)) :
    peerCandidates first rest text = rest (trimStart after) := by
  unfold peerCandidates
  simp only [h, hcut]

/-- Blanks before the first word do not count. -/
theorem peerCandidates_cons_blank {c : Char} (hc : isBlank c = true) (text : List Char) :
    peerCandidates first rest (c :: text) = peerCandidates first rest text := by
  have htrim : trimStart (c :: text) = trimStart text := List.dropWhile_cons_of_pos hc
  unfold peerCandidates
  rw [htrim]

/-- A written word without blanks is stepped over. -/
theorem peerCandidates_quote (hv : ∀ c ∈ v.toList, isBlank c = false) (t : List Char) :
    peerCandidates first rest (quote v ++ ' ' :: t) = rest (trimStart t) := by
  rw [peerCandidates_of_cut (trimStart_quote v _) (cutAtBlank_quote hv t)]
  rfl

/-- Of a written word with a blank, what stands behind the blank is left, with the closing quote. -/
theorem peerCandidates_quote_blank {a s : List Char} {c : Char} (hv : v.toList = a ++ c :: s)
    (ha : ∀ d ∈ a, isBlank d = false) (hc : isBlank c = true) (t : List Char) :
    peerCandidates first rest (quote v ++ t) = rest (quoteInside (trimStart s) ++ '\'' :: t) := by
  rw [peerCandidates_of_cut (trimStart_quote v _) (cutAtBlank_quote_blank hv ha hc t), trimStart,
    List.dropWhile_cons_of_pos hc]
  exact congrArg rest (trimStart_quoteInside s t)

end Steps

/-! ### Pairs -/

section Pairs

variable {params : SortedMap String Completer} {net : Network} {left : List String}

/-- Behind a name that is left, the completer of its values takes over, and the other names are left behind
the value. -/
theorem tupleCandidates_name {name : String} (hne : name ≠ "") (hname : ∀ c ∈ name.toList, isBlank c = false)
    (hmem : name ∈ left) {value : Completer} (hvalue : params.find? name = some value) (text : List Char) :
    tupleCandidates params net left (name.toList ++ ' ' :: text) =
      peerCandidates (value.candidates net)
        (fun rest => tupleCandidates params net (left.erase name) rest) text := by
  obtain ⟨c, r, hcr⟩ := List.exists_cons_of_ne_nil (mt String.toList_eq_nil_iff.mp hne)
  have htrim : trimStart (name.toList ++ ' ' :: text) = name.toList ++ ' ' :: text := by
    rw [hcr, List.cons_append]
    exact trimStart_cons_of_not_blank (hname c (by rw [hcr]; exact List.mem_cons_self))
  rw [tupleCandidates, htrim, cutAtBlank_word hname (by decide)]
  simp only [String.ofList_toList, hmem, hvalue, dif_pos]
  exact peerCandidates_cons_blank (by decide) text

/-- Where no word is being typed, all names that are left are proposed. -/
theorem tupleCandidates_nil :
    tupleCandidates params net left [] =
      pure ((left.filter fun name => name != "").map fun name => ⟨String.ofList (quote name), 0⟩) := by
  have hwords : words [] left =
      (left.filter fun name => name != "").map fun name => ⟨String.ofList (quote name), 0⟩ := by
    have hpartial : partialWord [] = ("", 0) := rfl
    have hbegins : ∀ name : String, begins "" name = true := fun _ => rfl
    simp only [words, hpartial, hbegins, Bool.and_true]
  rw [tupleCandidates]
  exact congrArg pure hwords

end Pairs

end Complete

/-- **Completers step over a written word in one piece if it holds no blank, and else up to its first
blank.** A word `v` is written in front of the text, in quotes if it needs them.

If it holds no blank, a completer for one word after another proposes for a word that is typed behind it what
its second part proposes for this word; and behind a parameter's name and `v`, all other names are proposed.

If it holds a blank, both go on with what `v` has behind its first blanks, still written as between quotes, and
with the quote that closes the word. -/
theorem written_word_steps (first rest : Completer) (entries : List (String × Completer)) (net : Network)
    (v : String) :
    ((∀ c ∈ v.toList, isBlank c = false) →
      (∀ p, (∀ c ∈ p, isBlank c = false) →
        (Completer.peer first rest).candidates net (quote v ++ ' ' :: p) = rest.candidates net p) ∧
      ∀ name ∈ (SortedMap.ofList entries).keys, name ≠ "" → name.toList.all isSafe = true →
        (Completer.tuple (.ofList entries)).candidates net (name.toList ++ ' ' :: (quote v ++ [' '])) =
          pure (((SortedMap.ofList entries).keys.filter fun other => other != name && other != "").map
            fun other => ⟨String.ofList (quote other), 0⟩)) ∧
    ∀ a b s, v.toList = a ++ b :: s → (∀ c ∈ a, isBlank c = false) → isBlank b = true →
      (∀ p, (Completer.peer first rest).candidates net (quote v ++ ' ' :: p) =
        rest.candidates net (quoteInside (trimStart s) ++ '\'' :: ' ' :: p)) ∧
      ∀ name ∈ (SortedMap.ofList entries).keys, name ≠ "" → name.toList.all isSafe = true →
        (Completer.tuple (.ofList entries)).candidates net (name.toList ++ ' ' :: (quote v ++ [' '])) =
          Complete.tupleCandidates (.ofList entries) net
            ((SortedMap.ofList entries).keys.filter fun other => other != name)
            (quoteInside (trimStart s) ++ ['\'', ' ']) := by
  have hothers : ∀ name, (SortedMap.ofList entries).keys.erase name =
      (SortedMap.ofList entries).keys.filter fun other => other != name :=
    fun name => (increasing_ofList entries).nodup.erase_eq_filter name
  constructor
  · intro hv
    refine ⟨fun p hp => ?_, fun name hname hne hall => ?_⟩
    · have htrim : trimStart p = p := List.dropWhile_eq_self_iff.mpr fun h => by simp [hp _ (p.getElem_mem h)]
      exact (Complete.peerCandidates_quote hv p).trans (congrArg _ htrim)
    · obtain ⟨value, hvalue⟩ := exists_find?_iff.mpr hname
      refine (Complete.tupleCandidates_name hne (not_blank_of_safe hall) hname hvalue _).trans ?_
      rw [Complete.peerCandidates_quote hv, hothers]
      refine Complete.tupleCandidates_nil.trans ?_
      simp only [List.filter_filter, Bool.and_comm]
  · intro a b s hv ha hb
    refine ⟨fun p => Complete.peerCandidates_quote_blank hv ha hb (' ' :: p), fun name hname hne hall => ?_⟩
    obtain ⟨value, hvalue⟩ := exists_find?_iff.mpr hname
    refine (Complete.tupleCandidates_name hne (not_blank_of_safe hall) hname hvalue _).trans ?_
    rw [Complete.peerCandidates_quote_blank hv ha hb, hothers]

/-- Behind `eth0` an aspect of the interface can be completed; behind `'my link'` the completer of aspects gets
`link' s`. -/
theorem steps_over_interfaces :
    let first := Completer.suggesting ["eth0", "my link"]
    let rest := Completer.suggesting ["stats", "ring"]
    let entries := [("dev", first), ("via", .free)]
    let net : Network := ⟨.memory .empty [], none⟩
    (Completer.peer first rest).candidates net (quote "eth0" ++ ' ' :: ['s']) = rest.candidates net ['s'] ∧
      (Completer.tuple (.ofList entries)).candidates net ("dev".toList ++ ' ' :: (quote "eth0" ++ [' '])) =
        pure [⟨"via", 0⟩] ∧
      (Completer.peer first rest).candidates net (quote "my link" ++ ' ' :: ['s']) =
        rest.candidates net "link' s".toList ∧
      (Completer.tuple (.ofList entries)).candidates net ("dev".toList ++ ' ' :: (quote "my link" ++ [' '])) =
        Complete.tupleCandidates (.ofList entries) net ["via"] "link' ".toList := by
  intro first rest entries net
  have hdev : "dev" ∈ (SortedMap.ofList entries).keys := by decide
  obtain ⟨hpeer, hpairs⟩ := (written_word_steps first rest entries net "eth0").1
    (not_blank_of_safe (by decide))
  obtain ⟨hpeerCut, hpairsCut⟩ :=
    (written_word_steps first rest entries net "my link").2 ['m', 'y'] ' ' "link".toList rfl
      (not_blank_of_safe (by decide)) rfl
  have hothers : (SortedMap.ofList entries).keys.filter (fun other => other != "dev") = ["via"] := by decide
  have hproposed : (((SortedMap.ofList entries).keys.filter fun other => other != "dev" && other != "").map
      fun other => (⟨String.ofList (quote other), 0⟩ : Candidate)) = [⟨"via", 0⟩] := by decide
  refine ⟨hpeer ['s'] (not_blank_of_safe (by decide)), ?_, hpeerCut ['s'], ?_⟩
  · rw [hpairs "dev" hdev (by decide) (by decide), hproposed]
  · rw [hpairsCut "dev" hdev (by decide) (by decide), hothers]
    rfl

/-- The interface `my link` is proposed as `'my link'`. Behind that, nothing is proposed for the next word, and
no other name. -/
theorem nothing_behind_quoted_interface :
    let first := Completer.suggesting ["eth0", "my link"]
    let rest := Completer.suggesting ["stats", "ring"]
    let params : SortedMap String Completer := .ofList [("dev", first), ("via", .free)]
    let net : Network := ⟨.memory .empty [], none⟩
    (first.candidates net []).value = [⟨"eth0", 0⟩, ⟨"'my link'", 0⟩] ∧
      quote "my link" = "'my link'".toList ∧
      ((Completer.peer first rest).candidates net "'my link' ".toList).value = [] ∧
      (rest.candidates net []).value = [⟨"stats", 0⟩, ⟨"ring", 0⟩] ∧
      params.keys = ["dev", "via"] ∧
      ((Completer.tuple params).candidates net "dev 'my link' ".toList).value = [] := by
  intro first rest params net
  refine ⟨by decide, by decide, by decide, by decide, by decide, ?_⟩
  rw [candidates_tuple (by decide)]
  decide

end RouterShell
