import ContactCard.JCard
import ContactCard.PlainText
import ContactCard.XCard

/-!
# Cards recorded one after another

A recorder keeps nothing of what it did before but the records and the last warnings.
So a run of calls, some of which may fail, gives for every card what an unused recorder
would give, and leaves behind the records of the cards that were accepted.  A call that
fails leaves everything as it was.
-/

namespace ContactCard

namespace Recorder

variable {σ α χ : Type}

/-- One call: what it gives, and the state it leaves behind. -/
def call (m : Recorder σ α) (card : Card) (s : σ) : Except BadGroup (Record α) × σ :=
  match m.add card s with
  | .ok r next => (.ok r, next)
  | .error e next => (.error e, next)

theorem call_ok {m : Recorder σ α} {card : Card} {s next : σ} {r : Record α}
    (hadd : m.add card s = .ok r next) : m.call card s = (.ok r, next) := by
  rw [call, hadd]

theorem call_error {m : Recorder σ α} {card : Card} {s next : σ} {e : BadGroup}
    (hadd : m.add card s = .error e next) : m.call card s = (.error e, next) := by
  rw [call, hadd]

/-- One call after another, also after one that fails. -/
def run (m : Recorder σ α) : List Card → σ → List (Except BadGroup (Record α)) × σ
  | [], s => ([], s)
  | card :: rest, s =>
    let (result, next) := m.call card s
    let (results, last) := m.run rest next
    (result :: results, last)

/-- One call on a recorder that was not used before. -/
def alone (m : Recorder σ α) (target : Target) (card : Card) : Except BadGroup (Record α) × σ :=
  m.call card (m.start target)

/-- What a call gives, but for the log, which numbers the records. -/
def given (result : Except BadGroup (Record α)) : Except BadGroup (α × List String) :=
  result.map fun r => (r.output, r.warnings)

/-- The records that a run has made. -/
def made (results : List (Except BadGroup (Record α))) : List (Record α) :=
  results.filterMap Except.toOption

theorem made_ok_cons (r : Record α) (results : List (Except BadGroup (Record α))) :
    made (.ok r :: results) = r :: made results := rfl

/-- A run that treats every card as if it were the only one; `held` is what the recorder
has recorded. -/
structure IsHistoryFree (m : Recorder σ α) (held : σ → List χ) (target : Target)
    (cards : List Card) : Prop where
  /-- Every call gives what it gives on an unused recorder. -/
  results : (m.run cards (m.start target)).1.map given =
    cards.map fun card => given (m.alone target card).1
  /-- What is recorded in the end is what unused recorders record of the accepted cards. -/
  content : held (m.run cards (m.start target)).2 =
    (cards.filter fun card => (m.alone target card).1.isOk).flatMap fun card =>
      held (m.alone target card).2
  /-- The size counts the calls that succeeded. -/
  size : m.size (m.run cards (m.start target)).2 =
    (made (m.run cards (m.start target)).1).length
  /-- The warnings are those of the last record. -/
  warnings : m.warnings (m.run cards (m.start target)).2 =
    (made (m.run cards (m.start target)).1).getLast?.elim [] Record.warnings
  /-- A call that fails changes nothing, whatever came before. -/
  failed : ∀ card s e, (m.call card s).1 = .error e → (m.call card s).2 = s

/-! ## From one call to a run -/

/-- The law of a single call: it fails and changes nothing, or it adds one record. -/
structure Law (m : Recorder σ α) (record : Target → Card → Except BadGroup (Record α))
    (target : σ → Target) (content : σ → List χ) (form : α → List χ) : Prop where
  target_start : ∀ t, target (m.start t) = t
  content_start : ∀ t, content (m.start t) = []
  size_start : ∀ t, m.size (m.start t) = 0
  warnings_start : ∀ t, m.warnings (m.start t) = []
  error : ∀ {card s e}, record (target s) card = .error e → m.call card s = (.error e, s)
  ok : ∀ {card s r}, record (target s) card = .ok r → ∃ log next,
    m.call card s = (.ok { r with log := log }, next) ∧ target next = target s ∧
      content next = content s ++ form r.output ∧ m.size next = m.size s + 1 ∧
      m.warnings next = r.warnings

namespace Law

variable {m : Recorder σ α} {record : Target → Card → Except BadGroup (Record α)}
variable {target : σ → Target} {content : σ → List χ} {form : α → List χ}

theorem given_alone (hm : m.Law record target content form) (t : Target) (card : Card) :
    given (m.alone t card).1 = given (record t card) := by
  have ht := hm.target_start t
  cases hrecord : record t card with
  | error e =>
      rw [← ht] at hrecord
      rw [alone, hm.error hrecord]
  | ok r =>
      rw [← ht] at hrecord
      obtain ⟨log, next, hcall, -⟩ := hm.ok hrecord
      rw [alone, hcall]
      rfl

/-- What a card that is accepted adds to the content. -/
theorem content_alone (hm : m.Law record target content form) {t : Target} {card : Card}
    {r : Record α} (hr : record t card = .ok r) :
    (m.alone t card).1.isOk = true ∧ content (m.alone t card).2 = form r.output := by
  rw [← hm.target_start t] at hr
  obtain ⟨log, next, hcall, -, hcontent, -⟩ := hm.ok hr
  rw [alone, hcall, hcontent, hm.content_start]
  exact ⟨rfl, rfl⟩

theorem not_isOk_alone (hm : m.Law record target content form) {t : Target} {card : Card}
    {e : BadGroup} (he : record t card = .error e) : (m.alone t card).1.isOk = false := by
  rw [← hm.target_start t] at he
  rw [alone, hm.error he]
  rfl

/-- The law of a run: it goes on from its start as its calls do. -/
theorem run (hm : m.Law record target content form) (cards : List Card) (s : σ) :
    (m.run cards s).1.map given = cards.map (fun card => given (m.alone (target s) card).1) ∧
      content (m.run cards s).2 = content s ++
        (cards.filter fun card => (m.alone (target s) card).1.isOk).flatMap
          (fun card => content (m.alone (target s) card).2) ∧
      m.size (m.run cards s).2 = m.size s + (made (m.run cards s).1).length ∧
      m.warnings (m.run cards s).2 =
        (made (m.run cards s).1).getLast?.elim (m.warnings s) Record.warnings := by
  induction cards generalizing s with
  | nil => simp [Recorder.run, made]
  | cons card rest ih =>
      cases hrecord : record (target s) card with
      | error e =>
          obtain ⟨hresults, hcontent, hsize, hwarnings⟩ := ih s
          have hgiven := hm.given_alone (target s) card
          rw [hrecord] at hgiven
          simp only [Recorder.run, hm.error hrecord, List.map_cons, List.filter_cons,
            hm.not_isOk_alone hrecord, Bool.false_eq_true, if_false]
          refine ⟨?_, hcontent, hsize, hwarnings⟩
          rw [hresults, hgiven]
      | ok r =>
          obtain ⟨log, next, hcall, htarget, hnext, hnextSize, hnextWarnings⟩ := hm.ok hrecord
          obtain ⟨hresults, hcontent, hsize, hwarnings⟩ := ih next
          obtain ⟨hok, halone⟩ := hm.content_alone hrecord
          have hgiven := hm.given_alone (target s) card
          rw [hrecord] at hgiven
          rw [htarget] at hresults hcontent
          simp only [Recorder.run, hcall, List.map_cons, List.filter_cons, hok, if_true,
            List.flatMap_cons, halone]
          refine ⟨?_, ?_, ?_, ?_⟩
          · rw [hresults, hgiven]
            rfl
          · rw [hcontent, hnext, List.append_assoc]
          · calc m.size (m.run rest next).2
                = m.size next + (made (m.run rest next).1).length := hsize
              _ = m.size s + ((made (m.run rest next).1).length + 1) := by
                rw [hnextSize]
                omega
          · rw [hwarnings, hnextWarnings, made_ok_cons, List.getLast?_cons]
            cases (made (m.run rest next).1).getLast? <;> rfl

/-- The content grows by the records that can be made. -/
theorem content_run (hm : m.Law record target content form) (cards : List Card) (s : σ) :
    content (m.run cards s).2 = content s ++
      (cards.filterMap fun card => (record (target s) card).toOption).flatMap
        fun r => form r.output := by
  rw [(hm.run cards s).2.1]
  congr 1
  induction cards with
  | nil => rfl
  | cons card rest ih =>
      cases hrecord : record (target s) card with
      | error e =>
          rw [List.filter_cons_of_neg (by simp [hm.not_isOk_alone hrecord]), ih,
            List.filterMap_cons_none (by rw [hrecord]; rfl)]
      | ok r =>
          obtain ⟨hok, halone⟩ := hm.content_alone hrecord
          rw [List.filter_cons_of_pos (by simp [hok]), List.flatMap_cons, ih, halone,
            List.filterMap_cons_some (by rw [hrecord]; rfl), List.flatMap_cons]

theorem isHistoryFree (hm : m.Law record target content form) (t : Target) (cards : List Card) :
    m.IsHistoryFree content t cards := by
  obtain ⟨hresults, hcontent, hsize, hwarnings⟩ := hm.run cards (m.start t)
  rw [hm.target_start] at hresults hcontent
  rw [hm.content_start, List.nil_append] at hcontent
  rw [hm.size_start, Nat.zero_add] at hsize
  rw [hm.warnings_start] at hwarnings
  refine ⟨hresults, hcontent, hsize, hwarnings, ?_⟩
  intro card s e he
  cases hrecord : record (target s) card with
  | error e => rw [hm.error hrecord]
  | ok r =>
      obtain ⟨log, next, hcall, -⟩ := hm.ok hrecord
      rw [hcall] at he
      cases he

end Law

end Recorder

/-! ## The three recorders -/

/-- A record that cannot be made leaves the document as it is. -/
theorem Document.add_error {α : Type} {format : Format α} {card : Card} {d : Document α}
    {e : BadGroup} (he : format.record d.target card = .error e) :
    Document.add format card d = .error e d := by
  change EStateM.bind (MonadExcept.ofExcept (format.record d.target card)) _ d = _
  rw [he]
  rfl

theorem Document.add_ok {α : Type} {format : Format α} {card : Card} {d : Document α}
    {r : Record α} (hr : format.record d.target card = .ok r) :
    Document.add format card d =
      .ok { r with log := r.log ++ recordLog format.name (d.size + 1) r.warnings }
        { d with records := d.records ++ [r.output], warnings := r.warnings } := by
  change EStateM.bind (MonadExcept.ofExcept (format.record d.target card)) _ d = _
  rw [hr]
  have hsize : (d.records ++ [r.output]).length = d.size + 1 := by simp [Document.size]
  rw [← hsize]
  rfl

/-- Documents obey the law, whatever a record is shown as. -/
theorem Format.law_recorder {α χ : Type} (format : Format α) (form : α → χ) :
    format.recorder.Law format.record Document.target (fun d => d.records.map form)
      (fun output => [form output]) where
  target_start _ := rfl
  content_start _ := rfl
  size_start _ := rfl
  warnings_start _ := rfl
  error he := Recorder.call_error (Document.add_error he)
  ok hr := ⟨_, _, Recorder.call_ok (Document.add_ok hr), rfl, by simp,
    by simp [Format.recorder, Document.size], rfl⟩

namespace PlainText

theorem write_error {card : Card} {w : Writer} {e : BadGroup}
    (he : record w.target card = .error e) : write card w = .error e w := by
  change EStateM.bind (MonadExcept.ofExcept (record w.target card)) _ w = _
  rw [he]
  rfl

theorem write_ok {card : Card} {w : Writer} {r : Record String}
    (hr : record w.target card = .ok r) :
    write card w = .ok { r with log := r.log ++ recordLog formatName (w.count + 1) r.warnings }
      { w with stream := w.stream ++ r.output, count := w.count + 1, warnings := r.warnings } := by
  change EStateM.bind (MonadExcept.ofExcept (record w.target card)) _ w = _
  rw [hr]
  rfl

/-- So does the stream of plain text, character by character. -/
theorem law_recorder :
    recorder.Law record Writer.target (fun w => w.stream.toList) String.toList where
  target_start _ := rfl
  content_start _ := rfl
  size_start _ := rfl
  warnings_start _ := rfl
  error he := Recorder.call_error (write_error he)
  ok hr := ⟨_, _, Recorder.call_ok (write_ok hr), rfl, by simp, rfl, rfl⟩

end PlainText

/-- Whatever cards are recorded one after another, in xCard, jCard or plain text, each is
recorded as if it were alone, and calls that fail leave no trace. -/
theorem Recorder.historyFree (target : Target) (cards : List Card) :
    XCard.format.recorder.IsHistoryFree (fun d => (XCard.root d).children) target cards ∧
      JCard.format.recorder.IsHistoryFree (fun d => d.records.map JCard.recordValue) target
        cards ∧
      PlainText.recorder.IsHistoryFree (fun w => w.stream.toList) target cards := by
  have hroot : (fun d => (XCard.root d).children) = fun d => d.records.map id := by
    funext d
    exact (List.map_id _).symm
  refine ⟨?_, ?_, ?_⟩
  · rw [hroot]
    exact (XCard.format.law_recorder id).isHistoryFree target cards
  · exact (JCard.format.law_recorder JCard.recordValue).isHistoryFree target cards
  · exact PlainText.law_recorder.isHistoryFree target cards

/-- A card whose only property is in a list of groups. -/
def unwritableCard : Card where
  standard := [{ Property.formattedName (some "Ann") with group := .list [.text "home"] }]

example :
    let ann : Card := { standard := [.formattedName (some "Ann")] }
    let (results, w) := PlainText.recorder.run [ann, unwritableCard, ann]
      (PlainText.recorder.start { addGenerator := false })
    results.map Except.isOk = [true, false, true] ∧ w.count = 2 ∧ w.stream =
      "BEGIN:VCARD\r\nVERSION:4.0\r\nFN:Ann\r\nEND:VCARD\r\n" ++
        "BEGIN:VCARD\r\nVERSION:4.0\r\nFN:Ann\r\nEND:VCARD\r\n" := by
  decide

end ContactCard
