import Mathlib.Data.List.Basic
import Mathlib.Data.List.Induction
import Multiscan.Cli.Settings
/-!
# Command line — what the parts of a command line set

Parts are taken one by one, each on top of what those before it have set. What comes
out can be read off the parts without their order, but for the order of those that
say the same kind of thing (`Settings.ofTokens`): if no part is refused, these are
the settings (`readTokens_eq_ofTokens`). Whether a part is refused depends on
nothing but whether there is a haystack already (`setToken_map`), so parts that are
never refused and name no haystack can stand anywhere (`stop_of_filter`).
-/

namespace Multiscan.Cli

/-- What the option of a name sets, if a command has one of that name. -/
def Command.setting? (c : Command) (name : Name) : Option Setting :=
  (entryFor c name).toOption.map (·.setting)

namespace Token

variable (c : Command)

/-- Whether a part is an option without a value that sets something. -/
def asks (x : Setting) : Token → Bool
  | .flag name => c.setting? name = some x
  | _ => false

/-- The flag that a part sets on every pattern. -/
def flag? : Token → Option Flag
  | .flag name =>
    match c.setting? name with
    | some (.flag f) => some f
    | _ => none
  | .option name value =>
    match c.setting? name with
    | some .namedFlag =>
      (parsed "--flag" value fun name => (Flag.ofName? name).mapError Error.message).toOption
    | _ => none
  | _ => none

/-- Where a part says that patterns come from. -/
def source? : Token → Option PatternSource
  | .option name value =>
    match c.setting? name with
    | some .pattern => (textOf value).toOption.map .given
    | some .patternFile => some (.file value)
    | _ => none
  | .positional value =>
    match c with
    | .info | .validate => (textOf value).toOption.map .given
    | _ => none
  | _ => none

/-- Where a part says that the text to scan comes from. -/
def haystack? : Token → Option HaystackSource
  | .option name value =>
    match c.setting? name with
    | some .haystack => (textOf value >>= unescapeHaystack).toOption.map .given
    | _ => none
  | .positional value =>
    match c with
    | .scan => some (.file value)
    | _ => none
  | _ => none

/-- The limit that a part sets. -/
def limit? : Token → Option (Option Nat)
  | .option name value =>
    match c.setting? name with
    | some .sizeLimit => (parsed "--size-limit" value parseLimit).toOption
    | _ => none
  | _ => none

/-- How often a part says to scan. -/
def rounds? : Token → Option Nat
  | .option name value =>
    match c.setting? name with
    | some .repetitions => (parsed "--repeat" value (parseNumber (UInt32.size - 1))).toOption
    | _ => none
  | _ => none

/-- What the option sets that a part is, if it is one. -/
def setting? : Token → Option Setting
  | .flag name => c.setting? name
  | .option name _ => c.setting? name
  | _ => none

/-! An option says no more than what it sets. -/

variable {c} {t : Token} {y : Setting}

theorem setting?_of_asks {x : Setting} (h : t.asks c x = true) : t.setting? c = some x := by
  cases t with
  | flag name => exact of_decide_eq_true h
  | _ => cases h

theorem asks_eq_false (h : t.setting? c = some y) {x : Setting} (hx : y ≠ x) :
    t.asks c x = false :=
  Bool.eq_false_iff.2 fun hasks => hx (Option.some.inj (h.symm.trans (setting?_of_asks hasks)))

theorem flag?_eq_none (h : t.setting? c = some y) (hflag : ∀ f, y ≠ .flag f)
    (hnamed : y ≠ .namedFlag) : t.flag? c = none := by
  cases t with
  | flag name =>
    rw [setting?] at h
    rw [flag?, h]
    split
    · next f hy => exact absurd (Option.some.inj hy) (hflag f)
    · rfl
  | option name value =>
    rw [setting?] at h
    rw [flag?, h]
    split
    · next hy => exact absurd (Option.some.inj hy) hnamed
    · rfl
  | _ => rfl

theorem source?_eq_none (h : t.setting? c = some y) (hpattern : y ≠ .pattern)
    (hfile : y ≠ .patternFile) : t.source? c = none := by
  cases t with
  | option name value =>
    rw [setting?] at h
    rw [source?, h]
    split
    · next hy => exact absurd (Option.some.inj hy) hpattern
    · next hy => exact absurd (Option.some.inj hy) hfile
    · rfl
  | positional => cases h
  | _ => rfl

theorem haystack?_eq_none (h : t.setting? c = some y) (hy : y ≠ .haystack) :
    t.haystack? c = none := by
  cases t with
  | option name value =>
    rw [setting?] at h
    rw [haystack?, h]
    split
    · next heq => exact absurd (Option.some.inj heq) hy
    · rfl
  | positional => cases h
  | _ => rfl

theorem limit?_eq_none (h : t.setting? c = some y) (hy : y ≠ .sizeLimit) : t.limit? c = none := by
  cases t with
  | option name value =>
    rw [setting?] at h
    rw [limit?, h]
    split
    · next heq => exact absurd (Option.some.inj heq) hy
    · rfl
  | _ => rfl

theorem rounds?_eq_none (h : t.setting? c = some y) (hy : y ≠ .repetitions) :
    t.rounds? c = none := by
  cases t with
  | option name value =>
    rw [setting?] at h
    rw [rounds?, h]
    split
    · next heq => exact absurd (Option.some.inj heq) hy
    · rfl
  | _ => rfl

/-- A part that sets a flag is an option for that. -/
theorem setting?_of_flag? {f : Flag} (h : t.flag? c = some f) :
    t.setting? c = some (.flag f) ∨ t.setting? c = some .namedFlag := by
  cases t with
  | flag name =>
    rw [flag?] at h
    split at h
    · next hname =>
      obtain rfl := Option.some.inj h
      exact .inl hname
    · cases h
  | option name value =>
    rw [flag?] at h
    split at h
    · next hname => exact .inr hname
    · cases h
  | _ => cases h

/-- A part that says where patterns come from is an option for that or no option. -/
theorem setting?_of_source? {p : PatternSource} (h : t.source? c = some p) :
    t.setting? c = some .pattern ∨ t.setting? c = some .patternFile ∨
      ∃ value, t = .positional value ∧ c ≠ .scan := by
  cases t with
  | option name value =>
    rw [source?] at h
    split at h
    · next hname => exact .inl hname
    · next hname => exact .inr (.inl hname)
    · cases h
  | positional value =>
    refine .inr (.inr ⟨value, rfl, ?_⟩)
    rintro rfl
    cases h
  | _ => cases h

end Token

namespace Settings

/-- Settings after one more part, if that is not refused. -/
def after (c : Command) (s : Settings) (t : Token) : Settings where
  quiet := s.quiet || t.asks c .quiet
  noTable := s.noTable || t.asks c .noTable
  patterns := (t.source? c).elim s.patterns (s.patterns ++ [·])
  fixedStrings := s.fixedStrings || t.asks c .fixedStrings
  flags := (t.flag? c).elim s.flags s.flags.insert
  sizeLimit := (t.limit? c).or s.sizeLimit
  noGroups := s.noGroups || t.asks c .noGroups
  haystack := (t.haystack? c).or s.haystack
  count := s.count || t.asks c .count
  repetitions := (t.rounds? c).or s.repetitions

/-- What all parts of a command line set, if none is refused. -/
def ofTokens (c : Command) (ts : List Token) : Settings where
  quiet := ts.any (Token.asks c .quiet)
  noTable := ts.any (Token.asks c .noTable)
  patterns := ts.filterMap (Token.source? c)
  fixedStrings := ts.any (Token.asks c .fixedStrings)
  flags := .ofList (ts.filterMap (Token.flag? c))
  sizeLimit := (ts.filterMap (Token.limit? c)).getLast?
  noGroups := ts.any (Token.asks c .noGroups)
  haystack := (ts.filterMap (Token.haystack? c)).getLast?
  count := ts.any (Token.asks c .count)
  repetitions := (ts.filterMap (Token.rounds? c)).getLast?

theorem filterMap_concat {α β : Type} (f : α → Option β) (l : List α) (a : α) :
    (l ++ [a]).filterMap f = l.filterMap f ++ (f a).toList := by
  rw [List.filterMap_append]
  rcases h : f a with _ | b
  · rw [List.filterMap_cons_none h]
    rfl
  · rw [List.filterMap_cons_some h]
    rfl

theorem getLast?_append_toList {α : Type} (l : List α) (o : Option α) :
    (l ++ o.toList).getLast? = o.or l.getLast? := by
  rw [List.getLast?_append]
  cases o <;> rfl

/-- One more part at the end adds to what those before it set. -/
theorem ofTokens_concat (c : Command) (ts : List Token) (t : Token) :
    ofTokens c (ts ++ [t]) = (ofTokens c ts).after c t := by
  have hany (x : Setting) : (ts ++ [t]).any (Token.asks c x) =
      (ts.any (Token.asks c x) || t.asks c x) := by
    rw [List.any_append, List.any_cons, List.any_nil, Bool.or_false]
  have hflags : FlagSet.ofList (ts.filterMap (Token.flag? c) ++ (t.flag? c).toList) =
      (t.flag? c).elim (FlagSet.ofList (ts.filterMap (Token.flag? c)))
        (FlagSet.ofList (ts.filterMap (Token.flag? c))).insert := by
    rw [FlagSet.ofList, List.foldl_append]
    cases t.flag? c <;> rfl
  have hpatterns : ts.filterMap (Token.source? c) ++ (t.source? c).toList =
      (t.source? c).elim (ts.filterMap (Token.source? c))
        (ts.filterMap (Token.source? c) ++ [·]) := by
    cases t.source? c
    · exact List.append_nil _
    · rfl
  simp only [ofTokens, after, hany, filterMap_concat, hflags, hpatterns, getLast?_append_toList]

end Settings

/-! ## One part -/

variable {c : Command} {s s' : Settings} {name : Name} {x : Setting}

theorem setFlagOption_eq (h : c.setting? name = some x) (s : Settings) :
    setFlagOption s x = s.after c (.flag name) := by
  cases x <;>
    simp [setFlagOption, Settings.setFlag, Settings.after, Token.asks, Token.flag?, Token.source?,
      Token.haystack?, Token.limit?, Token.rounds?, h]

/-- Other parts leave alone what an option without a value sets. -/
theorem after_of_not_asks {t : Token} (h : ∀ x, t.asks c x = false) (s : Settings) :
    s.after c t = { s with
      patterns := (t.source? c).elim s.patterns (s.patterns ++ [·])
      flags := (t.flag? c).elim s.flags s.flags.insert
      sizeLimit := (t.limit? c).or s.sizeLimit
      haystack := (t.haystack? c).or s.haystack
      repetitions := (t.rounds? c).or s.repetitions } := by
  simp only [Settings.after, h, Bool.or_false]

/-- An option with a value is refused in all settings alike, and otherwise adds what
it sets. Only to a haystack does it matter whether there is one already. -/
theorem setValueOption_map (hx : c.setting? name = some x) (value : Text.Bytes)
    (h : s'.haystack.isSome = s.haystack.isSome) :
    setValueOption s' value x =
      (setValueOption s value x).map fun _ => s'.after c (.option name value) := by
  rw [after_of_not_asks fun _ => rfl]
  simp only [Token.flag?, Token.source?, Token.haystack?, Token.limit?, Token.rounds?, hx]
  cases x with
  | pattern => simp only [setValueOption]; cases textOf value <;> rfl
  | namedFlag =>
    simp only [setValueOption]
    cases parsed "--flag" value fun name => (Flag.ofName? name).mapError Error.message <;> rfl
  | sizeLimit =>
    simp only [setValueOption]
    cases parsed "--size-limit" value parseLimit <;> rfl
  | repetitions =>
    simp only [setValueOption]
    cases parsed "--repeat" value (parseNumber (UInt32.size - 1)) <;> rfl
  | haystack =>
    simp only [setValueOption, needNoHaystack, h]
    split
    · rfl
    · rcases textOf value with m | text
      · rfl
      · rcases hu : unescapeHaystack text with m | t
        · simp only [about, Except.mapError, bind, Except.bind, hu, Except.map]
        · simp only [about, Except.mapError, bind, Except.bind, hu, Except.map]
          rfl
  | _ => rfl

/-- **A part is refused** in all settings alike, and otherwise adds what it sets. Only to
a haystack does it matter whether there is one already. -/
theorem setToken_map (h : s'.haystack.isSome = s.haystack.isSome) (t : Token) :
    setToken c s' t = (setToken c s t).map fun _ => s'.after c t := by
  cases t with
  | flag name =>
    rcases hentry : entryFor c name with m | o
    · simp only [setToken, hentry]
      rfl
    · have hx : c.setting? name = some o.setting := by rw [Command.setting?, hentry]; rfl
      simp only [setToken, hentry, ← setFlagOption_eq hx]
      rfl
  | option name value =>
    rcases hentry : entryFor c name with m | o
    · simp only [setToken, hentry]
      rfl
    · have hx : c.setting? name = some o.setting := by rw [Command.setting?, hentry]; rfl
      simp only [setToken, hentry]
      exact setValueOption_map hx value h
  | missing name =>
    rcases hentry : entryFor c name with m | o
    · simp only [setToken, hentry]
      rfl
    · simp only [setToken, hentry, needNoHaystack, h, bind, Except.bind]
      by_cases hhaystack : o.setting = .haystack
      · rw [if_pos hhaystack]
        cases s.haystack.isSome <;> rfl
      · rw [if_neg hhaystack]
        rfl
  | surplus => rfl
  | positional value =>
    rw [after_of_not_asks fun _ => rfl]
    cases c with
    | scan =>
      simp only [setToken, setPositional, needNoHaystack, h]
      split <;> rfl
    | version => rfl
    | info | validate =>
      simp only [setToken, setPositional, Token.source?]
      cases textOf value <;> rfl

/-- What is not refused adds what it sets. -/
theorem eq_after_of_setToken {t : Token} (h : setToken c s t = .ok s') : s' = s.after c t := by
  have hmap := setToken_map (c := c) (s := s) rfl t
  rw [h] at hmap
  exact Except.ok.inj hmap

/-! ## Command lines -/

/-- Settings after several parts. -/
def Settings.afterAll (c : Command) (s : Settings) (ts : List Token) : Settings :=
  ts.foldl (Settings.after c) s

theorem afterAll_default (c : Command) (ts : List Token) :
    Settings.default.afterAll c ts = .ofTokens c ts := by
  induction ts using List.reverseRecOn with
  | nil => rfl
  | append_singleton ts t ih =>
    rw [Settings.ofTokens_concat, ← ih, Settings.afterAll, List.foldl_append]
    rfl

theorem readTokens_cons_ok {t : Token} (h : setToken c s t = .ok s') (ts : List Token) :
    readTokens c s (t :: ts) = readTokens c s' ts := by
  rw [readTokens, h]

theorem readTokens_cons_error {t : Token} {m : String} (h : setToken c s t = .error m)
    (ts : List Token) : readTokens c s (t :: ts) = ⟨s, some m⟩ := by
  rw [readTokens, h]

theorem readTokens_afterAll {ts : List Token} (h : (readTokens c s ts).stop = none) :
    readTokens c s ts = ⟨s.afterAll c ts, none⟩ := by
  induction ts generalizing s with
  | nil => rfl
  | cons t ts ih =>
    rcases hset : setToken c s t with m | s'
    · rw [readTokens_cons_error hset] at h
      cases h
    · rw [readTokens_cons_ok hset] at h ⊢
      rw [ih h, eq_after_of_setToken hset]
      rfl

/-- **What a command line sets**, if none of its parts is refused. -/
theorem readTokens_eq_ofTokens {ts : List Token} (h : (readTokens c .default ts).stop = none) :
    readTokens c .default ts = ⟨.ofTokens c ts, none⟩ := by
  rw [readTokens_afterAll h, afterAll_default]

/-- Whether the reading stops depends on whether there is a haystack already, and on
nothing else that has been set. -/
theorem stop_congr (h : s'.haystack.isSome = s.haystack.isSome) (ts : List Token) :
    (readTokens c s' ts).stop = (readTokens c s ts).stop := by
  induction ts generalizing s s' with
  | nil => rfl
  | cons t ts ih =>
    have hmap := setToken_map h t (c := c)
    rcases hset : setToken c s t with m | u
    · rw [hset] at hmap
      rw [readTokens_cons_error hset, readTokens_cons_error hmap]
    · rw [hset] at hmap
      rw [readTokens_cons_ok hset, readTokens_cons_ok hmap]
      refine ih ?_
      rw [eq_after_of_setToken hset, Settings.after, Settings.after]
      cases t.haystack? c
      · exact h
      · rfl

/-! ## Haystacks -/

theorem exists_entry (h : c.setting? name = some x) :
    ∃ o, entryFor c name = .ok o ∧ o.setting = x := by
  rcases hentry : entryFor c name with m | o
  · rw [Command.setting?, hentry] at h
    cases h
  · rw [Command.setting?, hentry] at h
    exact ⟨o, rfl, Option.some.inj h⟩

theorem eq_none_of_needNoHaystack {u : Unit} (h : needNoHaystack s = .ok u) :
    s.haystack = none := by
  rw [needNoHaystack] at h
  split at h
  · cases h
  · next hsome => exact Option.not_isSome_iff_eq_none.1 hsome

/-- A haystack is taken only where there is none so far. -/
theorem eq_none_of_setToken {t : Token} {y : HaystackSource} (h : setToken c s t = .ok s')
    (ht : t.haystack? c = some y) : s.haystack = none := by
  cases t with
  | option name value =>
    rw [Token.haystack?] at ht
    split at ht
    · next hname =>
      obtain ⟨o, ho, hsetting⟩ := exists_entry hname
      rw [setToken, ho] at h
      change setValueOption s value o.setting = _ at h
      rw [hsetting, setValueOption] at h
      rcases hneed : needNoHaystack s with m | u
      · rw [hneed] at h
        cases h
      · exact eq_none_of_needNoHaystack hneed
    · cases ht
  | positional value =>
    cases c with
    | scan =>
      rw [setToken, setPositional] at h
      rcases hneed : needNoHaystack s with m | u
      · rw [hneed] at h
        cases h
      · exact eq_none_of_needNoHaystack hneed
    | _ => cases ht
  | _ => cases ht

theorem no_haystack_of_isSome {ts : List Token} (hs : s.haystack.isSome = true)
    (h : (readTokens c s ts).stop = none) : ts.filterMap (Token.haystack? c) = [] := by
  induction ts generalizing s with
  | nil => rfl
  | cons t ts ih =>
    rcases hset : setToken c s t with m | s'
    · rw [readTokens_cons_error hset] at h
      cases h
    · have hnone : t.haystack? c = none := by
        refine Option.eq_none_iff_forall_ne_some.2 fun y hy => ?_
        rw [eq_none_of_setToken hset hy] at hs
        cases hs
      rw [List.filterMap_cons_none hnone]
      rw [readTokens_cons_ok hset] at h
      refine ih ?_ h
      rw [eq_after_of_setToken hset, Settings.after, hnone]
      exact hs

/-- **At most one haystack** is taken. -/
theorem haystacks_le_one {ts : List Token} (h : (readTokens c s ts).stop = none) :
    (ts.filterMap (Token.haystack? c)).length ≤ 1 := by
  induction ts generalizing s with
  | nil => exact Nat.zero_le 1
  | cons t ts ih =>
    rcases hset : setToken c s t with m | s'
    · rw [readTokens_cons_error hset] at h
      cases h
    · rw [readTokens_cons_ok hset] at h
      rcases ht : t.haystack? c with _ | y
      · rw [List.filterMap_cons_none ht]
        exact ih h
      · have hsome : s'.haystack.isSome = true := by
          rw [eq_after_of_setToken hset, Settings.after, ht]
          rfl
        rw [List.filterMap_cons_some ht, no_haystack_of_isSome hsome h]
        exact Nat.le_refl 1

/-! ## Parts that can stand anywhere -/

/-- A part that is never refused and names no haystack. -/
structure Token.Free (c : Command) (t : Token) : Prop where
  ok (s : Settings) : setToken c s t = .ok (s.after c t)
  haystack : t.haystack? c = none

/-- It is enough that there are settings in which it is not refused. -/
theorem free_of_setToken {t : Token} (hhaystack : t.haystack? c = none)
    (h : ∀ s, ∃ s', setToken c s t = .ok s') : t.Free c where
  ok s := by
    obtain ⟨s', hs'⟩ := h s
    rw [hs', eq_after_of_setToken hs']
  haystack := hhaystack

theorem free_of_asks {t : Token} (h : t.asks c x = true) : t.Free c := by
  cases t with
  | flag name =>
    obtain ⟨o, ho, -⟩ := exists_entry (of_decide_eq_true h)
    refine free_of_setToken rfl fun s => ⟨setFlagOption s o.setting, ?_⟩
    rw [setToken, ho]
    rfl
  | _ => cases h

theorem free_of_flag? {t : Token} {f : Flag} (h : t.flag? c = some f) : t.Free c := by
  cases t with
  | flag name =>
    rw [Token.flag?] at h
    split at h
    · next hx => exact free_of_asks (decide_eq_true hx)
    · cases h
  | option name value =>
    rw [Token.flag?] at h
    split at h
    · next hx =>
      obtain ⟨o, ho, hsetting⟩ := exists_entry hx
      refine free_of_setToken (by simp only [Token.haystack?, hx]) fun s => ⟨s.setFlag f, ?_⟩
      rw [setToken, ho]
      change setValueOption s value o.setting = _
      rw [hsetting, setValueOption]
      rcases hparsed : parsed "--flag" value
        fun name => (Flag.ofName? name).mapError Error.message with m | g
      · rw [hparsed] at h
        cases h
      · rw [hparsed] at h
        obtain rfl := Option.some.inj h
        rfl
    · cases h
  | _ => cases h

theorem setting?_of_rounds? {t : Token} {n : Nat} (h : t.rounds? c = some n) :
    t.setting? c = some .repetitions := by
  cases t with
  | option name value =>
    rw [Token.rounds?] at h
    split at h
    · next hname => exact hname
    · cases h
  | _ => cases h

theorem free_of_rounds? {t : Token} {n : Nat} (h : t.rounds? c = some n) : t.Free c := by
  have hset := setting?_of_rounds? h
  cases t with
  | option name value =>
    obtain ⟨o, ho, hsetting⟩ := exists_entry hset
    refine free_of_setToken (Token.haystack?_eq_none hset nofun) fun s =>
      ⟨{ s with repetitions := some n }, ?_⟩
    rw [setToken, ho]
    change setValueOption s value o.setting = _
    rw [hsetting, setValueOption]
    rw [Token.setting?] at hset
    rcases hparsed : parsed "--repeat" value (parseNumber (UInt32.size - 1)) with m | k
    · simp only [Token.rounds?, hset, hparsed] at h
      cases h
    · simp only [Token.rounds?, hset, hparsed] at h
      obtain rfl := Option.some.inj h
      rfl
  | _ => cases h

theorem exists_text {value : Text.Bytes} {p : PatternSource}
    (h : (textOf value).toOption.map PatternSource.given = some p) :
    ∃ text, textOf value = .ok text ∧ p = .given text := by
  rcases htext : textOf value with m | text
  · rw [htext] at h
    cases h
  · rw [htext] at h
    exact ⟨text, rfl, (Option.some.inj h).symm⟩

theorem free_of_source? {t : Token} {p : PatternSource} (h : t.source? c = some p) : t.Free c := by
  cases t with
  | option name value =>
    rw [Token.source?] at h
    split at h
    · next hx =>
      obtain ⟨o, ho, hsetting⟩ := exists_entry hx
      obtain ⟨text, htext, rfl⟩ := exists_text h
      refine free_of_setToken (by simp only [Token.haystack?, hx]) fun s =>
        ⟨s.addPatterns (.given text), ?_⟩
      rw [setToken, ho]
      change setValueOption s value o.setting = _
      rw [hsetting, setValueOption, htext]
      rfl
    · next hx =>
      obtain ⟨o, ho, hsetting⟩ := exists_entry hx
      refine free_of_setToken (by simp only [Token.haystack?, hx]) fun s =>
        ⟨s.addPatterns (.file value), ?_⟩
      rw [setToken, ho]
      change setValueOption s value o.setting = _
      rw [hsetting]
      rfl
    · cases h
  | positional value =>
    cases c with
    | info | validate =>
      obtain ⟨text, htext, rfl⟩ := exists_text h
      refine free_of_setToken rfl fun s => ⟨s.addPatterns (.given text), ?_⟩
      rw [setToken, setPositional, htext]
      rfl
    | _ => cases h
  | _ => cases h

/-- **Parts that can stand anywhere** can be left out when it is asked whether the
reading stops. -/
theorem stop_of_filter {p : Token → Bool} (hp : ∀ t, p t = false → t.Free c) (s : Settings)
    (ts : List Token) : (readTokens c s (ts.filter p)).stop = (readTokens c s ts).stop := by
  induction ts generalizing s with
  | nil => rfl
  | cons t ts ih =>
    by_cases hkeep : p t = true
    · rw [List.filter_cons_of_pos hkeep]
      rcases hset : setToken c s t with m | s'
      · rw [readTokens_cons_error hset, readTokens_cons_error hset]
      · rw [readTokens_cons_ok hset, readTokens_cons_ok hset, ih]
    · have hfree := hp t (Bool.eq_false_iff.2 hkeep)
      have hsome : (s.after c t).haystack.isSome = s.haystack.isSome := by
        rw [Settings.after, hfree.haystack]
        rfl
      rw [List.filter_cons_of_neg hkeep, readTokens_cons_ok (hfree.ok s), ih, stop_congr hsome]

variable {p : Token → Bool} {ts ts' : List Token}

/-- Command lines that agree but for parts that do not say something say it alike. -/
theorem filterMap_eq_of_filter {α : Type} {f : Token → Option α} (h : ts'.filter p = ts.filter p)
    (hf : ∀ t, p t = false → f t = none) : ts'.filterMap f = ts.filterMap f := by
  have hskip (us : List Token) : (us.filter p).filterMap f = us.filterMap f := by
    rw [List.filterMap_filter]
    refine List.filterMap_congr fun t _ => ?_
    split
    · rfl
    · next hp => exact (hf t (Bool.eq_false_iff.2 hp)).symm
  rw [← hskip, h, hskip]

theorem any_eq_of_filter {f : Token → Bool} (h : ts'.filter p = ts.filter p)
    (hf : ∀ t, p t = false → f t = false) : ts'.any f = ts.any f := by
  have hskip (us : List Token) : (us.filter p).any f = us.any f := by
    rw [List.any_filter]
    refine List.any_congr rfl fun t => ?_
    cases hp : p t
    · exact (hf t hp).symm
    · rfl
  rw [← hskip, h, hskip]

/-- If they agree but for parts that can stand anywhere, none of either is refused or
some of both are. -/
theorem stop_eq_of_filter (h : ts'.filter p = ts.filter p) (hp : ∀ t, p t = false → t.Free c)
    (s : Settings) : (readTokens c s ts').stop = (readTokens c s ts).stop := by
  rw [← stop_of_filter hp, h, stop_of_filter hp]

end Multiscan.Cli
