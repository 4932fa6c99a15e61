import ContactCard.Proofs.Description
import ContactCard.Proofs.Spelling
import ContactCard.Proofs.Text.Escapes
import ContactCard.Text.Pieces

/-!
# Lines of plain text

A record is a list of lines, each closed by CR LF, and should be nothing else: no
property should go over a line.  Values and parameter values are encoded so that
they cannot.  The group of a property, its name and the names of its parameters
are written as they are.  So a record of a described card is one line for each
property exactly when these hold no line break.
-/

namespace ContactCard

open Text (IsUnbroken)

/-! ## Closed lines -/

/-- The number of characters that break a line. -/
def Text.breakCount (s : List Char) : Nat := s.countP fun c => c = '\r' ∨ c = '\n'

theorem Text.breakCount_eq_zero_iff (s : List Char) : breakCount s = 0 ↔ IsUnbroken s := by
  simp [breakCount, IsUnbroken, List.countP_eq_zero, not_or]

/-- The lines of a text.  A CR LF pair, a CR or an LF ends a line. -/
def Text.lines : List Char → List (List Char)
  | [] => []
  | '\r' :: '\n' :: rest => [] :: lines rest
  | c :: rest => if c = '\r' ∨ c = '\n' then [] :: lines rest else extend [c] (lines rest)

theorem Text.lines_append {line : List Char} (hline : IsUnbroken line) (rest : List Char) :
    lines (line ++ '\r' :: '\n' :: rest) = line :: lines rest := by
  induction line with
  | nil => rw [List.nil_append, lines]
  | cons c line ih =>
      obtain ⟨⟨hcr, hlf⟩, hline⟩ := (isUnbroken_cons c line).1 hline
      rw [List.cons_append, lines, if_neg (by simp [hcr, hlf]), ih hline]
      · rfl
      · exact fun _ h _ => hcr h

namespace PlainText

/-- Lines that are each closed by CR LF. -/
def closed (lines : List String) : String := String.join (lines.map fun s => s ++ "\r\n")

def linesOf (s : String) : List String := (Text.lines s.toList).map String.ofList

theorem linesOf_empty : linesOf "" = [] := rfl

/-- Lines that do not break are found again in a text that closes each of them. -/
theorem linesOf_closed_append {lines : List String}
    (hlines : ∀ line ∈ lines, IsUnbroken line.toList) (rest : String) :
    linesOf (closed lines ++ rest) = lines ++ linesOf rest := by
  induction lines with
  | nil => simp [closed]
  | cons line lines ih =>
      obtain ⟨hline, hlines⟩ := List.forall_mem_cons.1 hlines
      have htoList : (closed (line :: lines) ++ rest).toList =
          line.toList ++ '\r' :: '\n' :: (closed lines ++ rest).toList := by
        simp [closed, String.join_cons]
      rw [List.cons_append, ← ih hlines, linesOf, linesOf, htoList, Text.lines_append hline,
        List.map_cons, String.ofList_toList]

theorem linesOf_closed {lines : List String} (hlines : ∀ line ∈ lines, IsUnbroken line.toList) :
    linesOf (closed lines) = lines := by
  have hend := linesOf_closed_append hlines ""
  rwa [String.append_empty, linesOf_empty, List.append_nil] at hend

theorem breakCount_closed_cons (line : String) (rest : List String) :
    Text.breakCount (closed (line :: rest)).toList =
      Text.breakCount line.toList + 2 + Text.breakCount (closed rest).toList := by
  have hends : Text.breakCount "\r\n".toList = 2 := by decide
  simp only [closed, List.map_cons, String.join_cons, String.toList_append, Text.breakCount,
    List.countP_append] at hends ⊢
  rw [hends]

theorem le_breakCount_closed (lines : List String) :
    2 * lines.length ≤ Text.breakCount (closed lines).toList := by
  induction lines with
  | nil => simp
  | cons line rest ih =>
      rw [breakCount_closed_cons, List.length_cons]
      omega

/-- Lines that break nowhere are told by the number of line breaks. -/
theorem breakCount_closed_iff (lines : List String) :
    Text.breakCount (closed lines).toList = 2 * lines.length ↔
      ∀ line ∈ lines, IsUnbroken line.toList := by
  induction lines with
  | nil => simp [closed, Text.breakCount]
  | cons line rest ih =>
      have hrest := le_breakCount_closed rest
      rw [breakCount_closed_cons, List.length_cons, List.forall_mem_cons, ← ih,
        ← Text.breakCount_eq_zero_iff]
      omega

/-- A text is a record of as many properties, each on a line of its own. -/
def IsLineRecord (version : Version) (count : Nat) (text : String) : Prop :=
  ∃ lines : List String, lines.length = count + 3 ∧ text = closed lines ∧
    (∀ line ∈ lines, IsUnbroken line.toList) ∧ lines[0]? = some "BEGIN:VCARD" ∧
    lines[1]? = some ("VERSION:" ++ version.number) ∧ lines.getLast? = some "END:VCARD"

theorem IsLineRecord.breakCount {version : Version} {count : Nat} {text : String}
    (htext : IsLineRecord version count text) :
    Text.breakCount text.toList = 2 * (count + 3) := by
  obtain ⟨lines, hlength, rfl, hunbroken, -, -, -⟩ := htext
  rw [← hlength]
  exact (breakCount_closed_iff lines).2 hunbroken

theorem isUnbroken_versionLine (version : Version) :
    IsUnbroken ("VERSION:" ++ version.number).toList := by
  cases version <;> decide

/-- A block is a record of its lines exactly when none of them breaks. -/
theorem isLineRecord_block_iff (version : Version) (lines : List String) :
    IsLineRecord version lines.length (block version lines) ↔
      ∀ line ∈ lines, IsUnbroken line.toList := by
  have hframed : (∀ line ∈ "BEGIN:VCARD" :: ("VERSION:" ++ version.number) ::
      (lines ++ ["END:VCARD"]), IsUnbroken line.toList) ↔
        ∀ line ∈ lines, IsUnbroken line.toList := by
    have hbegin : IsUnbroken "BEGIN:VCARD".toList := by decide
    have hend : IsUnbroken "END:VCARD".toList := by decide
    simp only [List.forall_mem_cons, List.forall_mem_append]
    exact ⟨fun h => h.2.2.1,
      fun h => ⟨hbegin, isUnbroken_versionLine version, h, hend, by simp⟩⟩
  constructor
  · intro htext
    rw [← hframed]
    apply (breakCount_closed_iff _).1
    rw [closed]
    have hcount := htext.breakCount
    rw [block] at hcount
    rw [hcount]
    simp
  · intro hlines
    refine ⟨_, ?_, rfl, hframed.2 hlines, rfl, rfl, ?_⟩
    · simp
    · exact (List.getLast?_concat : ((_ :: _ :: lines) ++ ["END:VCARD"]).getLast? = _)

/-! ## The parts of a line -/

theorem isUnbroken_lineValue (value : String) :
    IsUnbroken (Parameters.lineValue value).toList := by
  have hencoded : IsUnbroken (Text.encodeCaret value).toList := by
    rw [Text.toList_encodeCaret]
    exact Text.isUnbroken_replaceChar (by decide) fun x hx =>
      .inr (Text.isUnbroken_replaceBreaks (by decide) _ x hx)
  rw [Parameters.lineValue]
  split
  · simpa using hencoded
  · exact hencoded

theorem isUnbroken_lineSegment_iff (entry : String × List String) :
    IsUnbroken (Parameters.lineSegment entry).toList ↔ IsUnbroken entry.1.toList := by
  have hvalues : IsUnbroken (",".intercalate (entry.2.map Parameters.lineValue)).toList := by
    rw [String.toList_intercalate]
    apply Text.isUnbroken_intercalate (by decide)
    intro piece hpiece
    obtain ⟨_, hmem, rfl⟩ := List.mem_map.1 hpiece
    obtain ⟨value, -, rfl⟩ := List.mem_map.1 hmem
    exact isUnbroken_lineValue value
  have hends : IsUnbroken ";".toList ∧ IsUnbroken "=".toList := by decide
  simp only [Parameters.lineSegment, String.toList_append, Text.isUnbroken_append]
  exact ⟨fun h => h.1.1.2, fun h => ⟨⟨⟨hends.1, h⟩, hends.2⟩, hvalues⟩⟩

/-- Of the parameters only the names can break the line. -/
theorem isUnbroken_parametersLine_iff (t : Parameters) :
    IsUnbroken t.line.toList ↔ ∀ name ∈ t.names, IsUnbroken name.toList := by
  rw [Parameters.line, String.toList_join, List.flatMap_map, Text.isUnbroken_flatMap]
  simp only [isUnbroken_lineSegment_iff, Parameters.names, Keyed.keys, List.forall_mem_map]

/-- A value is on one line unless a separator breaks it. -/
theorem isUnbroken_plainValue {p : Property}
    (hp : ∀ cls separator values, p.body = .list cls separator values →
      separator = ',' ∨ separator = ';') : IsUnbroken p.plainValue.toList := by
  obtain ⟨name, group, parameters, body⟩ := p
  cases body with
  | text cls value =>
      have htext : ∀ s, IsUnbroken (Text.escapeText s).toList := fun s => by
        rw [Text.toList_escapeText]
        exact Text.Escape.isUnbroken_encodeText _
      have hbreaks : ∀ s, IsUnbroken (Text.escapeBreaks s).toList := fun s => by
        rw [Text.toList_escapeBreaks]
        exact Text.Escape.isUnbroken_encodeBreaks _
      cases cls with
      | member => exact hbreaks _
      | raw => exact hbreaks _
      | _ => exact htext _
  | list cls separator values =>
      have hseparator : IsUnbroken [separator] := by
        rcases hp cls separator values rfl with rfl | rfl <;> decide
      change IsUnbroken (Text.joinFields separator values).toList
      rw [Text.joinFields, String.toList_ofList]
      apply Text.isUnbroken_intercalate hseparator
      intro piece hpiece
      obtain ⟨value, -, rfl⟩ := List.mem_map.1 hpiece
      exact Text.Escape.isUnbroken_encode separator value

/-- The group in front of a line breaks it if its label does. -/
theorem isUnbroken_groupLead_iff (label : Scalar) :
    IsUnbroken (groupLead label).toList ↔ IsUnbroken label.spell.toList := by
  rw [groupLead]
  cases hlabel : label.holds with
  | true => simp
  | false => simp [Scalar.isUnbroken_spell_of_not_holds hlabel]

/-- Whether everything that is written as it is stands on one line. -/
def BreaksNowhere (p : Property) : Prop :=
  IsUnbroken p.group.spell.toList ∧ IsUnbroken p.name.toList ∧
    ∀ name ∈ p.parameters.names, IsUnbroken name.toList

instance (p : Property) : Decidable (BreaksNowhere p) :=
  inferInstanceAs (Decidable (_ ∧ _ ∧ _))

/-- The line of a described property under a label of its kind. -/
theorem isUnbroken_lineOf_iff {target : Target} {card : Card} {label own : Scalar} {p : Property}
    (hp : p.IsDescribed) (hown : p.label? = some own)
    (hlabel : label = own ∨ Key.same label own = true) :
    IsUnbroken (lineOf target card label p).toList ↔ BreaksNowhere p := by
  have hgroup := Property.label?_eq_some_iff.1 hown
  have hspell : IsUnbroken (groupLead label).toList ↔ IsUnbroken p.group.spell.toList := by
    rw [isUnbroken_groupLead_iff, Scalar.isUnbroken_spell_iff_of_same hlabel, hgroup]
    rfl
  have hcolon : IsUnbroken ":".toList := by decide
  have hvalue := isUnbroken_plainValue hp.separator
  rw [lineOf, line, Card.parametersOf_of_not_isHooked hp.not_isHooked, hp.upper_name,
    BreaksNowhere]
  simp only [String.toList_append, Text.isUnbroken_append, hspell, isUnbroken_parametersLine_iff]
  constructor
  · rintro ⟨⟨⟨⟨hgroup, hname⟩, hnames⟩, -⟩, -⟩
    exact ⟨hgroup, hname, hnames⟩
  · rintro ⟨hgroup, hname, hnames⟩
    exact ⟨⟨⟨⟨hgroup, hname⟩, hnames⟩, hcolon⟩, hvalue⟩

/-! ## Records -/

/-- The lines of a record between its frame, each with its label and property. -/
theorem record_ok {target : Target} {card : Card} {r : Record String}
    (hr : record target card = .ok r) :
    ∃ buckets : Buckets, buckets.members.Perm (card.listed target.addGenerator) ∧
      buckets.AreLabelled ∧
      r.output = block target.version ((card.emittedIn target.version buckets).map fun entry =>
        lineOf target card entry.1 entry.2) := by
  rw [record] at hr
  obtain ⟨sections, hsections, hgather⟩ := bind_eq_ok.1 hr
  split at hgather
  · cases hgather
  cases hgather
  obtain ⟨buckets, hperm, hlabelled, houtputs⟩ := (writesAs target card).outputs_sections hsections
  exact ⟨buckets, hperm, hlabelled, congrArg (block target.version) houtputs⟩

/-- The record of a described card is one line for each emitted property exactly when
no group, name or parameter name of these breaks. -/
theorem isLineRecord_iff {v : Value} {card : Card} {target : Target} {r : Record String}
    (hcard : Card.ofValue v = .ok card) (hr : record target card = .ok r) :
    IsLineRecord target.version
        ((card.listed target.addGenerator).countP (card.Emits target.version)) r.output ↔
      ∀ p ∈ card.listed target.addGenerator, card.Emits target.version p →
        IsUnbroken p.group.spell.toList ∧ IsUnbroken p.name.toList ∧
          ∀ name ∈ p.parameters.names, IsUnbroken name.toList := by
  obtain ⟨buckets, hperm, hlabelled, houtput⟩ := record_ok hr
  have hdescribed := Card.isDescribed_listed hcard target.addGenerator
  have hlength : (card.listed target.addGenerator).countP (card.Emits target.version) =
      ((card.emittedIn target.version buckets).map fun entry =>
        lineOf target card entry.1 entry.2).length := by
    rw [List.length_map, ← hperm.countP_eq, List.countP_eq_length_filter, ← Card.snd_emittedIn,
      List.length_map]
  have hline : ∀ entry ∈ card.emittedIn target.version buckets,
      (IsUnbroken (lineOf target card entry.1 entry.2).toList ↔ BreaksNowhere entry.2) := by
    intro entry hentry
    obtain ⟨bucket, hbucket, hinside⟩ := List.mem_flatMap.1 hentry
    obtain ⟨p, hp, rfl⟩ := List.mem_map.1 hinside
    have hmem := (List.mem_filter.1 hp).1
    obtain ⟨own, hown, hlabel⟩ := hlabelled bucket hbucket p hmem
    have hlisted := hperm.mem_iff.1 (List.mem_flatMap.2 ⟨bucket, hbucket, hmem⟩)
    exact isUnbroken_lineOf_iff (hdescribed p hlisted) hown hlabel
  rw [houtput, hlength, isLineRecord_block_iff, List.forall_mem_map]
  calc (∀ entry ∈ card.emittedIn target.version buckets,
        IsUnbroken (lineOf target card entry.1 entry.2).toList)
      ↔ ∀ entry ∈ card.emittedIn target.version buckets, BreaksNowhere entry.2 :=
        forall₂_congr hline
    _ ↔ ∀ p ∈ (card.emittedIn target.version buckets).map (·.2), BreaksNowhere p :=
        List.forall_mem_map.symm
    _ ↔ ∀ p ∈ card.listed target.addGenerator, card.Emits target.version p → BreaksNowhere p := by
        rw [Card.snd_emittedIn]
        simp only [List.mem_filter, decide_eq_true_iff, hperm.mem_iff, and_imp]

/-- A description with line breaks in the value of a property and of a parameter. -/
def brokenValues : Value := .mapping [
  (.text "fn", .mapping [
    (.text "value", .text "Ann\nLee"),
    (.text "group", .text "home"),
    (.text "parameters", .mapping [(.text "x-p", .text "1\r\n2")])])]

/-- Both are encoded, so that the record is one line for each property. -/
theorem isLineRecord_brokenValues :
    ∃ card r, Card.ofValue brokenValues = .ok card ∧
      record { addGenerator := false } card = .ok r ∧
      r.output = "BEGIN:VCARD\r\nVERSION:4.0\r\nhome.FN;X-P=1^n2:Ann\\nLee\r\nEND:VCARD\r\n" ∧
      IsLineRecord .v40 ((card.listed false).countP (card.Emits .v40)) r.output := by
  obtain ⟨card, hcard⟩ : ∃ card, Card.ofValue brokenValues = .ok card := ⟨_, rfl⟩
  obtain ⟨r, hr⟩ : ∃ r, record { addGenerator := false } card = .ok r := by
    cases hcard
    exact ⟨_, rfl⟩
  refine ⟨card, r, hcard, hr, ?_, (isLineRecord_iff hcard hr).2 ?_⟩
  · cases hcard
    cases hr
    decide
  · cases hcard
    decide

/-- A description with a line break in the name of an extended property. -/
def brokenName : Value := .mapping [
  (.text "fn", .text "Ann"),
  (.text "extended", .list [
    .mapping [(.text "name", .text "a\nb"), (.text "value", .text "x")]])]

/-- The name is written as it is and goes over two lines. -/
theorem not_isLineRecord_brokenName :
    ∃ card r, Card.ofValue brokenName = .ok card ∧
      record { addGenerator := false } card = .ok r ∧
      r.output = "BEGIN:VCARD\r\nVERSION:4.0\r\nFN:Ann\r\nA\nB:x\r\nEND:VCARD\r\n" ∧
      ¬IsLineRecord .v40 ((card.listed false).countP (card.Emits .v40)) r.output := by
  refine ⟨_, _, rfl, rfl, by decide, fun hrecord => ?_⟩
  exact absurd hrecord.breakCount (by decide +kernel)

end PlainText

end ContactCard
