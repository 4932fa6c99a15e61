import ContactCard.Proofs.History
import ContactCard.Proofs.Reading

/-!
# Records in a stream

A stream of records is cut apart at the lines that end a record.  No written line may then
look like the beginning or the end of a record.  Values are kept to one line but are not kept
from being such a line together with their names: an ungrouped property without parameters can
have the name of one and the value of both.
-/

namespace ContactCard

open Text (IsUnbroken append_cut_of_not_mem)

/-! ## Cutting after a stop -/

section Cut

variable {α : Type} [DecidableEq α]

/-- The pieces of a list that end in a stop, and what comes after the last one. -/
def cutAfter (stop : α) : List α → List (List α)
  | [] => []
  | x :: rest =>
    if x = stop then [x] :: cutAfter stop rest
    else
      match cutAfter stop rest with
      | [] => [[x]]
      | piece :: pieces => (x :: piece) :: pieces

theorem cutAfter_append {stop : α} {body : List α} (hbody : stop ∉ body) (rest : List α) :
    cutAfter stop (body ++ [stop] ++ rest) = (body ++ [stop]) :: cutAfter stop rest := by
  induction body with
  | nil => simp [cutAfter]
  | cons x body ih =>
      obtain ⟨hx, hbody⟩ : stop ≠ x ∧ stop ∉ body := by simpa using hbody
      rw [List.cons_append, List.cons_append, cutAfter, if_neg hx.symm, ih hbody]

/-- Pieces that have the stop at their end and nowhere else are found again. -/
theorem cutAfter_flatMap {β : Type} {stop : α} {piece : β → List α} {xs : List β}
    (hpieces : ∀ x ∈ xs, ∃ body, piece x = body ++ [stop] ∧ stop ∉ body) :
    cutAfter stop (xs.flatMap piece) = xs.map piece := by
  induction xs with
  | nil => rfl
  | cons x xs ih =>
      obtain ⟨⟨body, hpiece, hbody⟩, hpieces⟩ := List.forall_mem_cons.1 hpieces
      rw [List.flatMap_cons, hpiece, cutAfter_append hbody, ih hpieces, List.map_cons, hpiece]

end Cut

namespace PlainText

/-! ## Lines that look like a frame -/

/-- Whether a property is written as the first or the last line of a record. -/
def IsFrameLike (p : Property) : Prop :=
  p.group.holds = false ∧ (p.name = "BEGIN" ∨ p.name = "END") ∧ p.parameters.names = [] ∧
    p.plainValue = "VCARD"

instance (p : Property) : Decidable (IsFrameLike p) := inferInstanceAs (Decidable (_ ∧ _ ∧ _))

theorem dot_mem_groupLead {label : Scalar} (hlabel : label.holds = true) :
    '.' ∈ (groupLead label).toList := by
  simp [groupLead, hlabel]

theorem semicolon_mem_line {t : Parameters} (ht : t.entries ≠ []) : ';' ∈ t.line.toList := by
  obtain ⟨entry, rest, hentries⟩ := List.exists_cons_of_ne_nil ht
  rw [Parameters.toList_line, hentries, List.flatMap_cons, Parameters.toList_lineSegment]
  simp

/-- A line is a word, a colon and another word only where nothing else is written. -/
theorem line_eq_iff {label : Scalar} {name : String} {t : Parameters} {value word other : String}
    (hword : Text.IsWord word) (hother : Text.IsWord other) :
    line label name t value = word ++ ":" ++ other ↔
      label.holds = false ∧ Text.upper name = word ∧ t.entries = [] ∧ value = other := by
  constructor
  · intro hline
    have hchars : ((groupLead label).toList ++ (Text.upper name).toList ++ t.line.toList) ++
        ':' :: value.toList = word.toList ++ ':' :: other.toList := by
      have hlist := congrArg String.toList hline
      simpa [line] using hlist
    -- The colon in between is the only one, since words hold none.
    have hcolon : ∀ {s : String}, Text.IsWord s → ':' ∉ s.toList :=
      fun hs hmem => hs.not_mem_stops ':' hmem (by decide)
    obtain ⟨hfirst, hsecond⟩ := append_cut_of_not_mem (hcolon hword) (hcolon hother) hchars
    have hinside : ∀ c ∈ (groupLead label).toList ++ (Text.upper name).toList ++ t.line.toList,
        c ∉ ['.', '=', ';', ':'] := by
      rw [hfirst]
      exact hword.not_mem_stops
    have hlabel : label.holds = false := by
      rw [← Bool.not_eq_true]
      intro hholds
      exact hinside '.' (by simp [dot_mem_groupLead hholds]) (by decide)
    have hparameters : t.entries = [] := by
      by_contra ht
      exact hinside ';' (by simp [semicolon_mem_line ht]) (by decide)
    refine ⟨hlabel, ?_, hparameters, String.toList_inj.1 hsecond⟩
    rw [← String.toList_inj, ← hfirst]
    simp [groupLead, hlabel, Parameters.line, hparameters]
  · rintro ⟨hlabel, rfl, ht, rfl⟩
    simp [line, groupLead, hlabel, Parameters.line, ht]

/-- The line of a described property is no frame exactly when the property is not like one. -/
theorem lineOf_ne_frame_iff {target : Target} {card : Card} {label own : Scalar} {p : Property}
    (hp : p.IsDescribed) (hown : p.group = .scalar own)
    (hlabel : label = own ∨ Key.same label own = true) :
    lineOf target card label p ≠ "BEGIN:VCARD" ∧ lineOf target card label p ≠ "END:VCARD" ↔
      ¬IsFrameLike p := by
  have hholds : label.holds = p.group.holds := by
    rw [hown]
    exact Scalar.holds_eq_of_same hlabel
  have hnames : p.parameters.entries = [] ↔ p.parameters.names = [] := List.map_eq_nil_iff.symm
  have hline : ∀ word : String, Text.IsWord word →
      (lineOf target card label p = word ++ ":" ++ "VCARD" ↔
        p.group.holds = false ∧ p.name = word ∧ p.parameters.names = [] ∧
          p.plainValue = "VCARD") := by
    intro word hword
    rw [lineOf, line_eq_iff hword (by decide), Card.parametersOf_of_not_isHooked hp.not_isHooked,
      hp.upper_name, hholds, hnames]
  have hbegin := hline "BEGIN" (by decide)
  have hend := hline "END" (by decide)
  rw [← not_or, not_iff_not]
  calc lineOf target card label p = "BEGIN:VCARD" ∨ lineOf target card label p = "END:VCARD"
      ↔ _ := or_congr hbegin hend
    _ ↔ IsFrameLike p := by
        rw [IsFrameLike, or_and_right, and_or_left]

/-! ## Framed records -/

/-- A text whose first line begins a record and whose last line ends it, with no such line
in between. -/
def IsFramed (text : String) : Prop :=
  ∃ body, linesOf text = "BEGIN:VCARD" :: (body ++ ["END:VCARD"]) ∧
    "BEGIN:VCARD" ∉ body ∧ "END:VCARD" ∉ body

/-- A text of lines between a frame. -/
def framed (body : List String) : String := closed ("BEGIN:VCARD" :: (body ++ ["END:VCARD"]))

theorem linesOf_framed_append {body : List String}
    (hbody : ∀ line ∈ body, IsUnbroken line.toList) (rest : String) :
    linesOf (framed body ++ rest) = "BEGIN:VCARD" :: (body ++ ["END:VCARD"]) ++ linesOf rest := by
  apply linesOf_closed_append
  rw [List.forall_mem_cons, List.forall_mem_append, List.forall_mem_singleton]
  exact ⟨by decide, hbody, by decide⟩

theorem linesOf_framed {body : List String} (hbody : ∀ line ∈ body, IsUnbroken line.toList) :
    linesOf (framed body) = "BEGIN:VCARD" :: (body ++ ["END:VCARD"]) := by
  have hend := linesOf_framed_append hbody ""
  rwa [String.append_empty, linesOf_empty, List.append_nil] at hend

theorem isFramed_framed_iff {body : List String} (hbody : ∀ line ∈ body, IsUnbroken line.toList) :
    IsFramed (framed body) ↔ "BEGIN:VCARD" ∉ body ∧ "END:VCARD" ∉ body := by
  rw [IsFramed, linesOf_framed hbody]
  constructor
  · rintro ⟨other, heq, hframes⟩
    rwa [List.append_cancel_right (List.cons.inj heq).2]
  · exact fun hframes => ⟨body, rfl, hframes⟩

theorem breaksNowhere_generatorProperty : BreaksNowhere generatorProperty := by
  decide

theorem not_isFrameLike_generatorProperty : ¬IsFrameLike generatorProperty := by
  decide

/-- The lines of a record inside its frame. -/
def bodyOf (target : Target) (card : Card) (buckets : Buckets) : List String :=
  ("VERSION:" ++ target.version.number) ::
    (card.emittedIn target.version buckets).map fun entry => lineOf target card entry.1 entry.2

theorem versionLine_ne_frames (version : Version) :
    "VERSION:" ++ version.number ≠ "BEGIN:VCARD" ∧ "VERSION:" ++ version.number ≠ "END:VCARD" := by
  cases version <;> decide

theorem not_mem_bodyOf_iff {target : Target} {card : Card} {buckets : Buckets} {s : String}
    (hversion : "VERSION:" ++ target.version.number ≠ s) :
    s ∉ bodyOf target card buckets ↔
      ∀ entry ∈ card.emittedIn target.version buckets, lineOf target card entry.1 entry.2 ≠ s := by
  simp only [bodyOf, List.mem_cons, List.mem_map, hversion.symm, false_or, not_exists, not_and,
    ne_eq]

section Body

variable {v : Value} {target : Target} {card : Card} {buckets : Buckets}

theorem isUnbroken_of_mem_bodyOf (hcard : Card.ofValue v = .ok card)
    (hperm : buckets.members.Perm (card.listed target.addGenerator))
    (hlabelled : buckets.AreLabelled) (hbreaks : ∀ p ∈ card.properties, BreaksNowhere p) :
    ∀ line ∈ bodyOf target card buckets, IsUnbroken line.toList := by
  have hdescribed := Card.isDescribed_listed hcard target.addGenerator
  have hlisted : ∀ p ∈ card.listed target.addGenerator, BreaksNowhere p :=
    (Card.forall_listed_iff breaksNowhere_generatorProperty).2 hbreaks
  rw [bodyOf, List.forall_mem_cons, List.forall_mem_map]
  refine ⟨isUnbroken_versionLine target.version, ?_⟩
  rw [Card.forall_emittedIn_iff hperm hlabelled
    (P := fun label p => IsUnbroken (lineOf target card label p).toList) (Q := BreaksNowhere)
    fun p hp hown hlabel => isUnbroken_lineOf_iff (hdescribed p hp)
      (Property.label?_eq_some_iff.2 hown) hlabel]
  exact fun p hp _ => hlisted p hp

/-- No line inside is a frame exactly when no emitted property is like one. -/
theorem frames_not_mem_bodyOf_iff (hcard : Card.ofValue v = .ok card)
    (hperm : buckets.members.Perm (card.listed target.addGenerator))
    (hlabelled : buckets.AreLabelled) :
    "BEGIN:VCARD" ∉ bodyOf target card buckets ∧ "END:VCARD" ∉ bodyOf target card buckets ↔
      ∀ p ∈ card.properties, card.Emits target.version p → ¬IsFrameLike p := by
  have hdescribed := Card.isDescribed_listed hcard target.addGenerator
  obtain ⟨hbegin, hend⟩ := versionLine_ne_frames target.version
  calc _ ↔ ∀ entry ∈ card.emittedIn target.version buckets,
        lineOf target card entry.1 entry.2 ≠ "BEGIN:VCARD" ∧
          lineOf target card entry.1 entry.2 ≠ "END:VCARD" := by
        rw [not_mem_bodyOf_iff hbegin, not_mem_bodyOf_iff hend, ← forall₂_and]
    _ ↔ ∀ p ∈ card.listed target.addGenerator, card.Emits target.version p → ¬IsFrameLike p :=
        Card.forall_emittedIn_iff hperm hlabelled
          (P := fun label p => lineOf target card label p ≠ "BEGIN:VCARD" ∧
            lineOf target card label p ≠ "END:VCARD")
          fun p hp hown hlabel => lineOf_ne_frame_iff (hdescribed p hp) hown hlabel
    _ ↔ ∀ p ∈ card.properties, card.Emits target.version p → ¬IsFrameLike p :=
        Card.forall_listed_iff fun _ => not_isFrameLike_generatorProperty

end Body

/-- The record of a described card is framed, and holds no frame in between as far as no
emitted property is like one. -/
theorem exists_body {target : Target} {card : Card} {r : Record String}
    (hcard : ∃ v, Card.ofValue v = .ok card)
    (hbreaks : ∀ p ∈ card.properties, BreaksNowhere p) (hr : record target card = .ok r) :
    ∃ body, r.output = framed body ∧ (∀ line ∈ body, IsUnbroken line.toList) ∧
      ("BEGIN:VCARD" ∉ body ∧ "END:VCARD" ∉ body ↔
        ∀ p ∈ card.properties, card.Emits target.version p → ¬IsFrameLike p) := by
  obtain ⟨v, hcard⟩ := hcard
  obtain ⟨buckets, hperm, hlabelled, houtput⟩ := record_ok hr
  exact ⟨bodyOf target card buckets, houtput,
    isUnbroken_of_mem_bodyOf hcard hperm hlabelled hbreaks,
    frames_not_mem_bodyOf_iff hcard hperm hlabelled⟩

/-! ## Streams -/

/-- The texts of the cards that can be written. -/
def records (target : Target) (cards : List Card) : List String :=
  (cards.filterMap fun card => (record target card).toOption).map Record.output

theorem mem_records {target : Target} {cards : List Card} {text : String} :
    text ∈ records target cards ↔
      ∃ card ∈ cards, ∃ r, record target card = .ok r ∧ r.output = text := by
  have hok : ∀ (card : Card) (r : Record String),
      (record target card).toOption = some r ↔ record target card = .ok r := by
    intro card r
    cases record target card <;> simp [Except.toOption]
  simp only [records, List.mem_map, List.mem_filterMap, hok]
  constructor
  · rintro ⟨r, ⟨card, hcard, hr⟩, htext⟩
    exact ⟨card, hcard, r, hr, htext⟩
  · rintro ⟨card, hcard, r, hr, htext⟩
    exact ⟨r, ⟨card, hcard, hr⟩, htext⟩

/-- A run of writing leaves the texts one after another. -/
theorem stream_run (target : Target) (cards : List Card) :
    (recorder.run cards (recorder.start target)).2.stream =
      String.join (records target cards) := by
  have hcontent := law_recorder.content_run cards (recorder.start target)
  rw [law_recorder.content_start, List.nil_append, law_recorder.target_start] at hcontent
  rw [← String.toList_inj, hcontent, records, String.toList_join, List.flatMap_map]

theorem linesOf_join {texts : List String}
    (htexts : ∀ text ∈ texts, ∃ body, text = framed body ∧
      ∀ line ∈ body, IsUnbroken line.toList) :
    linesOf (String.join texts) = texts.flatMap linesOf := by
  induction texts with
  | nil => rfl
  | cons text rest ih =>
      obtain ⟨⟨body, rfl, hbody⟩, hrest⟩ := List.forall_mem_cons.1 htexts
      rw [String.join_cons, List.flatMap_cons, linesOf_framed_append hbody, linesOf_framed hbody,
        ih hrest]

/-- A stream whose records can be told apart: its lines are those of the records, a frame
stands only around each of them, and cutting after the lines that end one gives them back. -/
structure IsFramedStream (stream : String) (texts : List String) : Prop where
  lines : linesOf stream = texts.flatMap linesOf
  framed : ∀ text ∈ texts, IsFramed text
  blocks : cutAfter "END:VCARD" (linesOf stream) = texts.map linesOf

/-- However many described cards are written one after another, with no line break in a
group, name or parameter name, their records can be told apart exactly when no property that
is written is like a frame. -/
theorem isFramedStream_iff {target : Target} {cards : List Card}
    (hcards : ∀ card ∈ cards, ∃ v, Card.ofValue v = .ok card)
    (hbreaks : ∀ card ∈ cards, ∀ p ∈ card.properties, BreaksNowhere p) :
    IsFramedStream (recorder.run cards (recorder.start target)).2.stream
        (records target cards) ↔
      ∀ card ∈ cards, (∃ r, record target card = .ok r) →
        ∀ p ∈ card.properties, card.Emits target.version p → ¬IsFrameLike p := by
  have htexts : ∀ text ∈ records target cards, ∃ body, text = framed body ∧
      ∀ line ∈ body, IsUnbroken line.toList := by
    intro text htext
    obtain ⟨card, hcard, r, hr, rfl⟩ := mem_records.1 htext
    obtain ⟨body, houtput, hbody, -⟩ := exists_body (hcards card hcard) (hbreaks card hcard) hr
    exact ⟨body, houtput, hbody⟩
  have hframed : ∀ card ∈ cards, ∀ r, record target card = .ok r →
      (IsFramed r.output ↔
        ∀ p ∈ card.properties, card.Emits target.version p → ¬IsFrameLike p) := by
    intro card hcard r hr
    obtain ⟨body, houtput, hbody, hiff⟩ := exists_body (hcards card hcard) (hbreaks card hcard) hr
    rw [houtput, isFramed_framed_iff hbody, hiff]
  rw [stream_run]
  constructor
  · rintro hstream card hcard ⟨r, hr⟩
    exact (hframed card hcard r hr).1 (hstream.framed _ (mem_records.2 ⟨card, hcard, r, hr, rfl⟩))
  · intro hproperties
    have hall : ∀ text ∈ records target cards, IsFramed text := by
      intro text htext
      obtain ⟨card, hcard, r, hr, rfl⟩ := mem_records.1 htext
      exact (hframed card hcard r hr).2 (hproperties card hcard ⟨r, hr⟩)
    refine ⟨linesOf_join htexts, hall, ?_⟩
    rw [linesOf_join htexts]
    apply cutAfter_flatMap
    intro text htext
    obtain ⟨body, hlines, -, hend⟩ := hall text htext
    exact ⟨"BEGIN:VCARD" :: body, hlines, by simpa using hend⟩

/-- A description of a name and, in a group, an extended property that is like the end of a
record in all else. -/
def endingDescription (group : Value) : Value := .mapping [
  (.text "fn", .text "Ann"),
  (.text "extended", .list [.mapping [
    (.text "name", .text "end"), (.text "value", .text "VCARD"), (.text "group", group)]])]

/-- The group in front of the line tells it from the end of a record. -/
theorem isFramedStream_endingDescriptions :
    ∃ first second, Card.ofValue (endingDescription (.text "home")) = .ok first ∧
      Card.ofValue (endingDescription (.int 1)) = .ok second ∧
      IsFramedStream
        (recorder.run [first, second] (recorder.start { addGenerator := false })).2.stream
        (records { addGenerator := false } [first, second]) := by
  obtain ⟨first, hfirst⟩ :
      ∃ card, Card.ofValue (endingDescription (.text "home")) = .ok card := ⟨_, rfl⟩
  obtain ⟨second, hsecond⟩ :
      ∃ card, Card.ofValue (endingDescription (.int 1)) = .ok card := ⟨_, rfl⟩
  refine ⟨first, second, hfirst, hsecond, (isFramedStream_iff ?_ ?_).2 ?_⟩
  · intro card hcard
    rcases List.mem_pair.1 hcard with rfl | rfl
    · exact ⟨_, hfirst⟩
    · exact ⟨_, hsecond⟩
  · cases hfirst
    cases hsecond
    decide
  · have hunlike : ∀ card ∈ [first, second], ∀ p ∈ card.properties, ¬IsFrameLike p := by
      cases hfirst
      cases hsecond
      decide
    exact fun card hcard _ p hp _ => hunlike card hcard p hp

/-- In a group that does not hold the property ends its record a line too early. -/
theorem not_isFramedStream_endingDescription :
    ∃ card, Card.ofValue (endingDescription .null) = .ok card ∧
      (∀ p ∈ card.properties, BreaksNowhere p) ∧
      (recorder.run [card] (recorder.start { addGenerator := false })).2.stream =
        "BEGIN:VCARD\r\nVERSION:4.0\r\nFN:Ann\r\nEND:VCARD\r\nEND:VCARD\r\n" ∧
      ¬IsFramedStream (recorder.run [card] (recorder.start { addGenerator := false })).2.stream
        (records { addGenerator := false } [card]) := by
  obtain ⟨card, hcard⟩ : ∃ card, Card.ofValue (endingDescription .null) = .ok card := ⟨_, rfl⟩
  have hstream : (recorder.run [card] (recorder.start { addGenerator := false })).2.stream =
      "BEGIN:VCARD\r\nVERSION:4.0\r\nFN:Ann\r\nEND:VCARD\r\nEND:VCARD\r\n" := by
    cases hcard
    decide
  refine ⟨card, hcard, ?_, hstream, fun hframed => ?_⟩
  · cases hcard
    decide
  · have hblocks := congrArg List.length hframed.blocks
    rw [hstream, List.length_map] at hblocks
    cases hcard
    exact absurd hblocks (by decide)

end PlainText

end ContactCard
