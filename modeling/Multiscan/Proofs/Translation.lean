import Mathlib.Data.List.Forall2
import Multiscan.Proofs.Engine.Run
import Multiscan.Proofs.Text.Offsets
import Multiscan.Scanner
/-!
# Scans — what becomes of the events that an engine reports

An engine may report whatever it likes: ids that no expression has, ends
before starts, offsets inside a character or past the end. A scan either
turns every event into one match, in the order of the events (`Stands` says
what the match has to do with the event), or refuses the first event whose
id is unknown. `scan_translates` is both at once, for an engine that answers
at all with success.
-/

namespace Multiscan

namespace Scanner

variable {σ : Type}
variable {d : Database} {s : Scanner} {text : String}

/-- A match stands for an event: it has the event's id and the expression at
that position, covers the span of the event's bytes, which lies in the text,
and has the characters it covers if its expression asks for them. Reading
these characters fails none of its checks. -/
structure Stands (d : Database) (text : String) (ev : Engine.Event) (m : Match) : Prop where
  id : m.id = ev.id.toNat
  expression : d.expression? ev.id.toNat = some m.expression
  span : (m.start, m.stop) =
    (Text.OffsetMap.ofText text.toList).span ev.start.toNat ev.stop.toNat
  start_le : m.start ≤ m.stop
  stop_le : m.stop ≤ text.length
  matched : m.text = if m.expression.flags.contains .extractMatched then
    some (String.ofList ((text.toList.drop m.start).take (m.stop - m.start))) else none
  checked : (Text.OffsetMap.ofText text.toList).slice? text.toList m.start m.stop =
    some ((text.toList.drop m.start).take (m.stop - m.start))

/-- The error for an id that is not one of a database. -/
def unknownId (id : Nat) : Error :=
  .invalid ("engine reported unknown pattern id " ++ Nat.repr id)

/-! ## One event -/

/-- **An event with a known id becomes a match that stands for it.** -/
theorem translate_of_lt {ev : Engine.Event} (h : ev.id.toNat < d.length) (text : String) :
    ∃ m, translate d (Text.OffsetMap.ofText text.toList) text.toList ev = .ok m ∧
      Stands d text ev m := by
  have he : d.expression? ev.id.toNat = some d.expressions[ev.id.toNat] :=
    List.getElem?_eq_getElem h
  have hle := Text.OffsetMap.span_fst_le (Text.OffsetMap.ofText text.toList)
    ev.start.toNat ev.stop.toNat
  have hstop := Text.OffsetMap.span_snd_le text.toList ev.start.toNat ev.stop.toNat
  rcases hspan : (Text.OffsetMap.ofText text.toList).span ev.start.toNat ev.stop.toNat
    with ⟨start, stop⟩
  simp only [hspan] at hle hstop
  rw [translate, he]
  simp only [hspan, Text.OffsetMap.slice_ofText hle hstop]
  exact ⟨_, rfl, {
    id := rfl
    expression := he
    span := hspan.symm
    start_le := hle
    stop_le := by rwa [String.length_toList] at hstop
    matched := rfl
    checked := Text.OffsetMap.slice?_ofText hle hstop }⟩

/-- An event with an unknown id is refused. -/
theorem translate_of_ge {ev : Engine.Event} (h : d.length ≤ ev.id.toNat)
    (map : Text.OffsetMap) (cs : List Char) :
    translate d map cs ev = .error (unknownId ev.id.toNat) := by
  have he : d.expression? ev.id.toNat = none := List.getElem?_eq_none h
  rw [translate, he]
  rfl

/-! ## All events -/

/-- **Events with known ids become as many matches, in the same order.** -/
theorem translateAll_of_lt {events : List Engine.Event}
    (h : ∀ ev ∈ events, ev.id.toNat < d.length) (text : String) :
    ∃ ms, translateAll d text.toList events = .ok ms ∧
      List.Forall₂ (Stands d text) events ms := by
  induction events with
  | nil => exact ⟨[], rfl, .nil⟩
  | cons ev events ih =>
    obtain ⟨m, hm, hstands⟩ := translate_of_lt (h ev List.mem_cons_self) text
    obtain ⟨ms, hms, hall⟩ := ih fun e he => h e (List.mem_cons_of_mem _ he)
    refine ⟨m :: ms, ?_, .cons hstands hall⟩
    rw [translateAll] at hms ⊢
    rw [List.mapM_cons, hm, hms]
    rfl

/-- **The first event with an unknown id is the one that is refused**, and
nothing comes of the others. -/
theorem translateAll_of_ge {before after : List Engine.Event} {ev : Engine.Event}
    (hbefore : ∀ e ∈ before, e.id.toNat < d.length) (hev : d.length ≤ ev.id.toNat) :
    translateAll d text.toList (before ++ ev :: after) = .error (unknownId ev.id.toNat) := by
  obtain ⟨ms, hms, -⟩ := translateAll_of_lt hbefore text
  rw [translateAll] at hms ⊢
  rw [List.mapM_append, hms, List.mapM_cons, translate_of_ge hev]
  rfl

/-! ## The scan -/

/-- The error for a text of so many bytes that a scan cannot take. -/
def tooLong (bytes : Nat) : Error :=
  .invalid ("text of " ++ Nat.repr bytes ++ " bytes is too long to scan in one call")

/-- A scanner with scratch space asks with it for an open database, unless the
text is too long. -/
theorem toAsk_eq {scratch database : Handle} (hs : s.stage = .allocated scratch)
    (hd : d.handle = some database) (text : String) :
    s.toAsk d text = if UInt32.size ≤ (Text.bytesOf text).size
      then .error (tooLong (Text.bytesOf text).size)
      else .ok (scratch, database, Text.bytesOf text) := by
  have hscratch : s.toScan = .ok scratch := by rw [toScan, hs]
  have hdatabase : d.handle? = .ok database := by rw [Database.handle?, hd]
  rw [toAsk, hscratch, hdatabase]
  simp only [bind, Except.bind]
  split
  · rfl
  · rfl

/-- **What a scan comes to** once the engine has answered: the translation of
what was reported if that ended with success, whatever the scanner has kept
from earlier scans, and otherwise the error that the code stands for. -/
theorem scanStep_of_answer {E : Engine σ} {w : World σ} {scratch database : Handle}
    {data : Text.Bytes} {code : Code} {events : List Engine.Event} {e : σ}
    (hask : s.toAsk d text = .ok (scratch, database, data))
    (h : E.answer (.scan database scratch data) w.engine = (⟨code, events⟩, e)) :
    (s.scanStep E d text w).1 =
      (if code = Code.success then translateAll d text.toList events
        else .error ((Error.ofCode code).within "failed to scan"), s.forget.hear events) := by
  rw [scanStep, hask]
  simp only [Step.bind_apply, World.ask_apply, h]
  by_cases hcode : code = Code.success
  · rw [if_neg (not_not.2 hcode), if_pos hcode]
    rfl
  · rw [if_pos hcode, if_neg hcode]
    rfl

/-- **A scan translates faithfully whatever the engine reports.** If every id
is known, the matches stand for the events one by one and in their order. If
not, the scan fails, the engine having no part in the error, and the first
unknown id is named. -/
theorem scan_translates (E : Engine σ) (w : World σ) {scratch database : Handle}
    (hs : s.stage = .allocated scratch) (hd : d.handle = some database)
    (hsize : (Text.bytesOf text).size < UInt32.size) {events : List Engine.Event} {e : σ}
    (h : E.answer (.scan database scratch (Text.bytesOf text)) w.engine =
      (⟨Code.success, events⟩, e)) :
    ((∀ ev ∈ events, ev.id.toNat < d.length) →
      ∃ ms, ((s.scan E d text).attempt w).1 = .ok ms ∧ List.Forall₂ (Stands d text) events ms) ∧
    ∀ before ev after, events = before ++ ev :: after →
      (∀ e ∈ before, e.id.toNat < d.length) → d.length ≤ ev.id.toNat →
      ∃ err, ((s.scan E d text).attempt w).1 = .error err ∧ err.kind = .invalidParameter ∧
        err.code? = none ∧
        err.context = some ("engine reported unknown pattern id " ++ Nat.repr ev.id.toNat) := by
  have hscan : ((s.scan E d text).attempt w).1 = translateAll d text.toList events := by
    have hask := toAsk_eq hs hd text
    rw [if_neg (Nat.not_le.2 hsize)] at hask
    change (s.scanStep E d text w).1.1 = _
    rw [scanStep_of_answer hask h, if_pos rfl]
  constructor
  · intro hevents
    rw [hscan]
    exact translateAll_of_lt hevents text
  · rintro before ev after rfl hbefore hev
    refine ⟨unknownId ev.id.toNat, ?_, rfl, rfl, rfl⟩
    rw [hscan]
    exact translateAll_of_ge hbefore hev

/-- An engine that takes every request and reports the same events in every
scan. -/
def reporting (events : List Engine.Event) : Engine Unit where
  version := "reporting"
  label := "Reporting"
  runsHere := true
  answer
    | .compile _ _ => return ⟨Code.success, some 0, none⟩
    | .allocScratch _ _ => return ⟨Code.success, some 0⟩
    | .databaseSize _ | .scratchSize _ | .baseScratchSize _ => return ⟨Code.success, 0⟩
    | .scan _ _ _ => return ⟨Code.success, events⟩
    | .info _ _ => return ⟨Code.success, none, none⟩
    | .freeInfo _ => return ()
    | .freeDatabase _ | .freeScratch _ | .freeError _ _ => return Code.success

theorem answer_reporting (events : List Engine.Event) (database scratch : Handle)
    (data : Text.Bytes) (u : Unit) :
    (reporting events).answer (.scan database scratch data) u = (⟨Code.success, events⟩, u) := rfl

/-- A match that ends before it starts, one that starts inside a character and
ends past the end, and then two unknown ids, of which the first is named. -/
theorem scan_translates_odd_events :
    let d : Database := ⟨some 1, [.ofPattern "a" .empty, .ofPattern "b" (.ofList [.extractMatched])]⟩
    let s : Scanner := ⟨.allocated 2, [⟨9, 9, 9⟩]⟩
    let text := "aé𝄞"
    let known : List Engine.Event := [⟨1, 5, 2⟩, ⟨0, 2, 0xFFFFFFFFFFFFFFFF⟩]
    (∃ ms, ((s.scan (reporting known) d text).attempt (.start ())).1 = .ok ms ∧
      List.Forall₂ (Stands d text) known ms) ∧
    ∃ err, ((s.scan (reporting (known ++ [⟨7, 0, 1⟩, ⟨2, 0, 1⟩])) d text).attempt (.start ())).1 =
        .error err ∧ err.kind = .invalidParameter ∧ err.code? = none ∧
      err.context = some ("engine reported unknown pattern id " ++ Nat.repr 7) := by
  have hsize : (Text.bytesOf "aé𝄞").size < UInt32.size := by decide
  intro d s text known
  have hknown : ∀ ev ∈ known, ev.id.toNat < d.length := by decide
  have hstage : s.stage = .allocated 2 := rfl
  have hhandle : d.handle = some 1 := rfl
  have hreport := scan_translates (reporting known) (.start ()) hstage hhandle hsize
    (answer_reporting known 1 2 _ ())
  have hrefuse := scan_translates (reporting (known ++ [⟨7, 0, 1⟩, ⟨2, 0, 1⟩])) (.start ())
    hstage hhandle hsize (answer_reporting _ 1 2 _ ())
  exact ⟨hreport.1 hknown, hrefuse.2 known ⟨7, 0, 1⟩ [⟨2, 0, 1⟩] rfl hknown (by decide)⟩

end Scanner

end Multiscan
