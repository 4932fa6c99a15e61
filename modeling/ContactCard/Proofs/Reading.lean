import ContactCard.Proofs.Framing
import ContactCard.Proofs.Text.Caret
import ContactCard.Proofs.Text.Words

/-!
# What plain text says

The text of a record is taken apart from left to right.  A word ends before the
first character that no word holds, a quoted value at its second quote, and any
other value before the first comma, semicolon or colon.  So where groups and names
are words, a record says which properties it has: their groups, names, parameters
and values, up to the spelling of line breaks in the values of parameters.
-/

namespace ContactCard

open Text (IsUnbroken BeginsWith beginsWith_cons append_cut)

/-- Two functions tell the items of two lists apart in the same way. -/
theorem map_eq_map_iff_of_forall {α β γ δ : Type} {f : α → γ} {f' : β → γ} {g : α → δ}
    {g' : β → δ} {xs : List α} {ys : List β}
    (heq : ∀ x ∈ xs, ∀ y ∈ ys, f x = f' y ↔ g x = g' y) :
    xs.map f = ys.map f' ↔ xs.map g = ys.map g' := by
  induction xs generalizing ys with
  | nil => cases ys <;> simp
  | cons x xs ih =>
      cases ys with
      | nil => simp
      | cons y ys =>
          have hrest := ih fun a ha b hb =>
            heq a (List.mem_cons_of_mem _ ha) b (List.mem_cons_of_mem _ hb)
          rw [List.map_cons, List.map_cons, List.map_cons, List.map_cons, List.cons_eq_cons,
            List.cons_eq_cons, heq x List.mem_cons_self y List.mem_cons_self, hrest]

/-! ## Parameters -/

namespace Parameters

theorem toList_lineValue (value : String) :
    (lineValue value).toList =
      if needsQuotes (Text.encodeCaret value) then
        '"' :: (Text.Caret.encode value.toList ++ ['"'])
      else Text.Caret.encode value.toList := by
  rw [lineValue]
  cases needsQuotes (Text.encodeCaret value) <;> simp

theorem not_mem_stops_of_not_needsQuotes {s : String} (hs : needsQuotes s = false) :
    ∀ c ∈ s.toList, c ∉ [',', ';', ':'] := by
  intro c hc hstop
  have hno := List.any_eq_false.1 hs c hc
  simp_all

/-- Values that are written alike differ in the spelling of line breaks alone. -/
theorem lineValue_eq_iff (first second : String) :
    lineValue first = lineValue second ↔ Text.normalize first = Text.normalize second := by
  have hencode : Text.encodeCaret first = Text.encodeCaret second ↔
      Text.normalize first = Text.normalize second := by
    rw [← String.toList_inj, Text.toList_encodeCaret, Text.toList_encodeCaret,
      Text.Caret.encode_eq_encode_iff, ← Text.toList_normalize, ← Text.toList_normalize,
      String.toList_inj]
  rw [← hencode]
  constructor
  · intro heq
    have hchars := congrArg String.toList heq
    rw [toList_lineValue, toList_lineValue] at hchars
    have hquote (value : String) := Text.Caret.quote_not_mem_encode value.toList
    rw [← String.toList_inj, Text.toList_encodeCaret, Text.toList_encodeCaret]
    split at hchars <;> split at hchars
    · exact List.append_cancel_right (List.cons.inj hchars).2
    · exact absurd (hchars ▸ List.mem_cons_self) (hquote second)
    · exact absurd (hchars ▸ List.mem_cons_self) (hquote first)
    · exact hchars
  · intro heq
    rw [lineValue, lineValue, heq]

/-- A value ends where it is followed by a comma, semicolon or colon. -/
theorem lineValue_cut {first second : String} {x y : List Char}
    (hx : BeginsWith [',', ';', ':'] x) (hy : BeginsWith [',', ';', ':'] y)
    (heq : (lineValue first).toList ++ x = (lineValue second).toList ++ y) :
    lineValue first = lineValue second ∧ x = y := by
  have hquote (value : String) := Text.Caret.quote_not_mem_encode value.toList
  have hstops : ∀ {value : String}, ¬needsQuotes (Text.encodeCaret value) = true →
      ∀ c ∈ Text.Caret.encode value.toList, c ∉ [',', ';', ':'] := by
    intro value hvalue
    rw [← Text.toList_encodeCaret]
    exact not_mem_stops_of_not_needsQuotes (by simpa using hvalue)
  have hmixed : ∀ {value : String} {tail z : List Char}, BeginsWith [',', ';', ':'] z →
      '"' :: tail ≠ Text.Caret.encode value.toList ++ z := by
    intro value tail z hz hmix
    cases hvalue : Text.Caret.encode value.toList with
    | nil =>
        rw [hvalue] at hmix
        exact hz.ne_cons (by decide) _ hmix.symm
    | cons c rest =>
        rw [hvalue] at hmix
        have hc : '"' = c := (List.cons.inj hmix).1
        exact hquote value (hvalue ▸ hc ▸ List.mem_cons_self)
  rw [← String.toList_inj]
  rw [toList_lineValue, toList_lineValue] at heq ⊢
  split at heq <;> split at heq
  · next hfirst hsecond =>
    have hclosed : Text.Caret.encode first.toList ++ '"' :: x =
        Text.Caret.encode second.toList ++ '"' :: y := by
      simpa using heq
    have hends : ∀ value : String, ∀ c ∈ Text.Caret.encode value.toList, c ∉ ['"'] :=
      fun value c hc hmem => hquote value (List.mem_singleton.1 hmem ▸ hc)
    obtain ⟨hencoded, hrest⟩ := append_cut (hends first) (hends second)
      (beginsWith_cons (by simp) x) (beginsWith_cons (by simp) y) hclosed
    rw [if_pos hfirst, if_pos hsecond, hencoded]
    exact ⟨rfl, (List.cons.inj hrest).2⟩
  · exact absurd heq (hmixed hy)
  · exact absurd heq.symm (hmixed hx)
  · next hfirst hsecond =>
    rw [if_neg hfirst, if_neg hsecond]
    exact append_cut (hstops hfirst) (hstops hsecond) hx hy heq

/-- The values of a parameter as they stand on a line. -/
def lineValues (values : List String) : List Char :=
  (",".intercalate (values.map lineValue)).toList

theorem lineValues_singleton (value : String) : lineValues [value] = (lineValue value).toList := by
  simp [lineValues]

theorem lineValues_cons_cons (first second : String) (rest : List String) :
    lineValues (first :: second :: rest) =
      (lineValue first).toList ++ ',' :: lineValues (second :: rest) := by
  simp [lineValues, String.toList_intercalate]

/-- Some values end where they are followed by a semicolon or colon. -/
theorem lineValues_cut {firsts seconds : List String} (hfirsts : firsts ≠ [])
    (hseconds : seconds ≠ []) {x y : List Char} (hx : BeginsWith [';', ':'] x)
    (hy : BeginsWith [';', ':'] y) (heq : lineValues firsts ++ x = lineValues seconds ++ y) :
    firsts.map lineValue = seconds.map lineValue ∧ x = y := by
  have hmany : [';', ':'] ⊆ [',', ';', ':'] := by simp
  induction firsts generalizing seconds with
  | nil => exact absurd rfl hfirsts
  | cons first firsts ih =>
      obtain ⟨second, seconds, rfl⟩ := List.exists_cons_of_ne_nil hseconds
      cases firsts with
      | nil =>
          cases seconds with
          | nil =>
              rw [lineValues_singleton, lineValues_singleton] at heq
              obtain ⟨hvalue, hrest⟩ := lineValue_cut (hx.mono hmany) (hy.mono hmany) heq
              exact ⟨by simp [hvalue], hrest⟩
          | cons next seconds =>
              rw [lineValues_singleton, lineValues_cons_cons, List.append_assoc] at heq
              have hrest := (lineValue_cut (hx.mono hmany) (beginsWith_cons (by simp) _) heq).2
              exact absurd hrest (hx.ne_cons (by decide) _)
      | cons other firsts =>
          cases seconds with
          | nil =>
              rw [lineValues_singleton, lineValues_cons_cons, List.append_assoc] at heq
              have hrest := (lineValue_cut (beginsWith_cons (by simp) _) (hy.mono hmany) heq).2
              exact absurd hrest.symm (hy.ne_cons (by decide) _)
          | cons next seconds =>
              rw [lineValues_cons_cons, lineValues_cons_cons, List.append_assoc,
                List.append_assoc] at heq
              obtain ⟨hvalue, htail⟩ := lineValue_cut (beginsWith_cons (by simp) _)
                (beginsWith_cons (by simp) _) heq
              obtain ⟨hvalues, hrest⟩ := ih (by simp) (by simp) (List.cons.inj htail).2
              exact ⟨by rw [List.map_cons, hvalue, hvalues, ← List.map_cons], hrest⟩

theorem toList_lineSegment (entry : String × List String) :
    (lineSegment entry).toList = ';' :: (entry.1.toList ++ '=' :: lineValues entry.2) := by
  simp [lineSegment, lineValues]

/-- What a parameter says: its name, and its values with their line breaks in one
spelling. -/
def said (entry : String × List String) : String × List String :=
  (entry.1, entry.2.map Text.normalize)

theorem map_lineValue_eq_iff (firsts seconds : List String) :
    firsts.map lineValue = seconds.map lineValue ↔
      firsts.map Text.normalize = seconds.map Text.normalize :=
  map_eq_map_iff_of_forall fun first _ second _ => lineValue_eq_iff first second

/-- What a parameter says is all that is written of it. -/
theorem lineSegment_said (entry : String × List String) :
    lineSegment (said entry) = lineSegment entry := by
  have hvalues : (entry.2.map Text.normalize).map lineValue = entry.2.map lineValue := by
    rw [List.map_map]
    apply List.map_congr_left
    intro value _
    rw [Function.comp_apply, lineValue_eq_iff, Text.normalize_normalize]
  rw [lineSegment, lineSegment, said, hvalues]

/-- A parameter ends where it is followed by a semicolon or colon. -/
theorem lineSegment_cut {first second : String × List String} (hfirst : Text.IsWord first.1)
    (hsecond : Text.IsWord second.1) (hfirsts : first.2 ≠ []) (hseconds : second.2 ≠ [])
    {x y : List Char} (hx : BeginsWith [';', ':'] x) (hy : BeginsWith [';', ':'] y)
    (heq : (lineSegment first).toList ++ x = (lineSegment second).toList ++ y) :
    said first = said second ∧ x = y := by
  have hstops : ∀ {s : String}, Text.IsWord s → ∀ c ∈ s.toList, c ∉ ['='] := by
    intro s hs c hc hstop
    exact hs.not_mem_stops c hc (by simpa using .inr (.inl (List.mem_singleton.1 hstop)))
  rw [toList_lineSegment, toList_lineSegment, List.cons_append, List.cons_append,
    List.append_assoc, List.append_assoc] at heq
  obtain ⟨hname, hvalues⟩ := append_cut (hstops hfirst) (hstops hsecond)
    (beginsWith_cons (by simp) _) (beginsWith_cons (by simp) _) (List.cons.inj heq).2
  obtain ⟨hvalues, hrest⟩ := lineValues_cut hfirsts hseconds hx hy (List.cons.inj hvalues).2
  refine ⟨?_, hrest⟩
  rw [said, said, String.toList_inj.1 hname, (map_lineValue_eq_iff _ _).1 hvalues]

/-- After a parameter there comes another one or a colon. -/
theorem beginsWith_lineSegments (entries : List (String × List String)) {x : List Char}
    (hx : BeginsWith [':'] x) :
    BeginsWith [';', ':'] (entries.flatMap (fun entry => (lineSegment entry).toList) ++ x) := by
  cases entries with
  | nil => exact hx.mono (by simp)
  | cons entry rest =>
      rw [List.flatMap_cons, toList_lineSegment]
      exact beginsWith_cons (by simp) _

/-- Some parameters end at the first colon outside their values. -/
theorem lineSegments_cut {firsts seconds : List (String × List String)}
    (hfirsts : ∀ entry ∈ firsts, Text.IsWord entry.1 ∧ entry.2 ≠ [])
    (hseconds : ∀ entry ∈ seconds, Text.IsWord entry.1 ∧ entry.2 ≠ []) {x y : List Char}
    (hx : BeginsWith [':'] x) (hy : BeginsWith [':'] y)
    (heq : firsts.flatMap (fun entry => (lineSegment entry).toList) ++ x =
      seconds.flatMap (fun entry => (lineSegment entry).toList) ++ y) :
    firsts.map said = seconds.map said ∧ x = y := by
  induction firsts generalizing seconds with
  | nil =>
      cases seconds with
      | nil => exact ⟨rfl, heq⟩
      | cons second seconds =>
          rw [List.flatMap_cons, toList_lineSegment] at heq
          exact absurd heq (hx.ne_cons (by decide) _)
  | cons first firsts ih =>
      cases seconds with
      | nil =>
          rw [List.flatMap_cons, toList_lineSegment] at heq
          exact absurd heq.symm (hy.ne_cons (by decide) _)
      | cons second seconds =>
          obtain ⟨⟨hfirst, hfirstValues⟩, hfirsts⟩ := List.forall_mem_cons.1 hfirsts
          obtain ⟨⟨hsecond, hsecondValues⟩, hseconds⟩ := List.forall_mem_cons.1 hseconds
          rw [List.flatMap_cons, List.flatMap_cons, List.append_assoc, List.append_assoc] at heq
          obtain ⟨hsaid, hrest⟩ := lineSegment_cut hfirst hsecond hfirstValues hsecondValues
            (beginsWith_lineSegments firsts hx) (beginsWith_lineSegments seconds hy) heq
          obtain ⟨htail, hxy⟩ := ih hfirsts hseconds hrest
          exact ⟨by rw [List.map_cons, List.map_cons, hsaid, htail], hxy⟩

theorem toList_line (t : Parameters) :
    t.line.toList = t.entries.flatMap fun entry => (lineSegment entry).toList := by
  rw [line, String.toList_join, List.flatMap_map]

/-- The parameters of a line end at the first colon outside their values. -/
theorem line_cut {first second : Parameters} (hfirst : ∀ name ∈ first.names, Text.IsWord name)
    (hsecond : ∀ name ∈ second.names, Text.IsWord name) {x y : List Char}
    (hx : BeginsWith [':'] x) (hy : BeginsWith [':'] y)
    (heq : first.line.toList ++ x = second.line.toList ++ y) :
    first.entries.map said = second.entries.map said ∧ x = y := by
  have hwords : ∀ {t : Parameters}, (∀ name ∈ t.names, Text.IsWord name) →
      ∀ entry ∈ t.entries, Text.IsWord entry.1 ∧ entry.2 ≠ [] := fun ht entry hentry =>
    ⟨ht entry.1 (List.mem_map_of_mem hentry), Parameters.values_ne_nil _ entry hentry⟩
  rw [toList_line, toList_line] at heq
  exact lineSegments_cut (hwords hfirst) (hwords hsecond) hx hy heq

/-- The names stay words when one more is put in. -/
theorem isWord_put {t : Parameters} (ht : ∀ other ∈ t.names, Text.IsWord other) {name : String}
    (hname : Text.IsWord name) (value : String) :
    ∀ other ∈ (t.put name value).names, Text.IsWord other := by
  intro other hother
  rw [names, put, Keyed.keys_alter] at hother
  split at hother
  · exact ht other hother
  · rcases List.mem_append.1 hother with hother | hother
    · exact ht other hother
    · exact List.mem_singleton.1 hother ▸ hname.upper

/-- Tables that say the same make the same line. -/
theorem line_of_said_eq {first second : Parameters}
    (hsaid : first.entries.map said = second.entries.map said) : first.line = second.line := by
  have hline : ∀ t : Parameters, t.line = String.join ((t.entries.map said).map lineSegment) := by
    intro t
    rw [line, List.map_map]
    congr 1
    exact List.map_congr_left fun entry _ => (lineSegment_said entry).symm
  rw [hline, hline, hsaid]

end Parameters

/-! ## Lines -/

namespace PlainText

/-- What a line says of a property. -/
structure Reading where
  group : Option String
  name : String
  parameters : List (String × List String)
  value : String
  deriving DecidableEq

/-- The group, the name, the parameters and the value of a property as they are written. -/
def reading (target : Target) (card : Card) (p : Property) : Reading where
  group := p.groupName?
  name := Text.upper p.name
  parameters := (card.parametersOf target p).entries.map Parameters.said
  value := p.plainValue

end PlainText

/-- Hooks that add only parameters named by words. -/
def Hooks.KeepWords (hooks : Hooks) : Prop :=
  ∀ version mode cardSize (t : Parameters), (∀ name ∈ t.names, Text.IsWord name) →
    ∀ name ∈ (hooks.adjust version mode cardSize t).result.names, Text.IsWord name

/-- Properties whose group, name and parameter names are words, and whose values are
separated by commas or semicolons. -/
structure Property.IsWorded (p : Property) : Prop where
  group : p.group = .null ∨ ∃ s, s ≠ "" ∧ Text.IsWord s ∧ p.group = .text s
  name : Text.IsWord p.name
  parameters : ∀ name ∈ p.parameters.names, Text.IsWord name
  separator : ∀ cls separator values, p.body = .list cls separator values →
    separator = ',' ∨ separator = ';'
  hooks : ∀ hooks value, p.body = .text (.hooked hooks) value → hooks.KeepWords

theorem Property.isWorded_generatorProperty : generatorProperty.IsWorded := by
  refine ⟨.inl rfl, by decide, ?_, ?_, ?_⟩
  · intro name hname
    cases hname
  · intro cls separator values hbody
    cases hbody
  · intro hooks value hbody
    cases (Body.text.inj hbody).1

namespace Property.IsWorded

variable {p q : Property}

theorem hasNamedGroup (hp : p.IsWorded) : p.HasNamedGroup :=
  hp.group.imp_right fun ⟨s, _, _, hs⟩ => ⟨s, hs⟩

theorem isWord_parametersOf (hp : p.IsWorded) (target : Target) (card : Card) :
    ∀ name ∈ (card.parametersOf target p).names, Text.IsWord name := by
  by_cases hooked : p.IsHooked
  · obtain ⟨hooks, value, hbody⟩ := hooked
    rw [Card.parametersOf, Property.writtenParameters, hbody]
    exact hp.hooks hooks value hbody _ _ _ _ hp.parameters
  · rw [Card.parametersOf_of_not_isHooked hooked]
    exact hp.parameters

theorem groupLead_ofName? (hp : p.IsWorded) :
    PlainText.groupLead (Scalar.ofName? p.groupName?) = p.groupName?.elim "" (· ++ ".") := by
  rw [PlainText.groupLead_ofName?, PlainText.filter_groupName?]
  exact hp.group.imp_right fun ⟨s, hs, _, hgroup⟩ => ⟨s, hs, hgroup⟩

theorem isWord_groupName? (hp : p.IsWorded) : ∀ s ∈ p.groupName?, Text.IsWord s := by
  intro s hs
  rcases hp.group with h | ⟨name, -, hword, h⟩
  · simp [Property.groupName?, h] at hs
  · obtain rfl : name = s := by simpa [Property.groupName?, h] using hs
    exact hword

end Property.IsWorded

namespace PlainText

/-- A group and a name end at the first dot, semicolon and colon. -/
theorem lead_cut {g h : Option String} {m n : String} (hg : ∀ s ∈ g, Text.IsWord s)
    (hh : ∀ s ∈ h, Text.IsWord s) (hm : Text.IsWord m) (hn : Text.IsWord n) {x y : List Char}
    (hx : BeginsWith [';', ':'] x) (hy : BeginsWith [';', ':'] y)
    (heq : (g.elim "" (· ++ ".")).toList ++ (m.toList ++ x) =
      (h.elim "" (· ++ ".")).toList ++ (n.toList ++ y)) : g = h ∧ m = n ∧ x = y := by
  have hmany : [';', ':'] ⊆ ['.', '=', ';', ':'] := by simp
  have hdot : ∀ rest : List Char, BeginsWith ['.', '=', ';', ':'] ('.' :: rest) :=
    beginsWith_cons (by simp)
  cases g with
  | none =>
      cases h with
      | none =>
          obtain ⟨hname, hrest⟩ := append_cut hm.not_mem_stops hn.not_mem_stops (hx.mono hmany)
            (hy.mono hmany) (by simpa using heq)
          exact ⟨rfl, String.toList_inj.1 hname, hrest⟩
      | some s =>
          have hcut : m.toList ++ x = s.toList ++ '.' :: (n.toList ++ y) := by simpa using heq
          have hrest := (append_cut hm.not_mem_stops (hh s rfl).not_mem_stops (hx.mono hmany)
            (hdot _) hcut).2
          exact absurd hrest (hx.ne_cons (by decide) _)
  | some r =>
      cases h with
      | none =>
          have hcut : r.toList ++ '.' :: (m.toList ++ x) = n.toList ++ y := by simpa using heq
          have hrest := (append_cut (hg r rfl).not_mem_stops hn.not_mem_stops (hdot _)
            (hy.mono hmany) hcut).2
          exact absurd hrest.symm (hy.ne_cons (by decide) _)
      | some s =>
          have hcut : r.toList ++ '.' :: (m.toList ++ x) = s.toList ++ '.' :: (n.toList ++ y) := by
            simpa using heq
          obtain ⟨hgroup, hnames⟩ := append_cut (hg r rfl).not_mem_stops (hh s rfl).not_mem_stops
            (hdot _) (hdot _) hcut
          obtain ⟨hname, hrest⟩ := append_cut hm.not_mem_stops hn.not_mem_stops (hx.mono hmany)
            (hy.mono hmany) (List.cons.inj hnames).2
          exact ⟨congrArg some (String.toList_inj.1 hgroup), String.toList_inj.1 hname, hrest⟩

theorem toList_lineOf {p : Property} (hp : p.IsWorded) (target : Target) (card : Card) :
    (lineOf target card (Scalar.ofName? p.groupName?) p).toList =
      (p.groupName?.elim "" (· ++ ".")).toList ++ ((Text.upper p.name).toList ++
        ((card.parametersOf target p).line.toList ++ ':' :: p.plainValue.toList)) := by
  rw [lineOf, line, hp.groupLead_ofName?]
  simp

/-- A line tells the reading of its property, and nothing else. -/
theorem lineOf_eq_iff {p q : Property} (hp : p.IsWorded) (hq : q.IsWorded) (target : Target)
    (card other : Card) :
    lineOf target card (Scalar.ofName? p.groupName?) p =
        lineOf target other (Scalar.ofName? q.groupName?) q ↔
      reading target card p = reading target other q := by
  have hcolon : ∀ r : Property, BeginsWith [':'] (':' :: r.plainValue.toList) :=
    fun r => beginsWith_cons (by simp) _
  have hends : ∀ (c : Card) (r : Property), BeginsWith [';', ':']
      ((c.parametersOf target r).line.toList ++ ':' :: r.plainValue.toList) := by
    intro c r
    rw [Parameters.toList_line]
    exact Parameters.beginsWith_lineSegments _ (hcolon r)
  constructor
  · intro heq
    rw [← String.toList_inj, toList_lineOf hp, toList_lineOf hq] at heq
    obtain ⟨hgroup, hname, hrest⟩ := lead_cut hp.isWord_groupName? hq.isWord_groupName?
      hp.name.upper hq.name.upper (hends card p) (hends other q) heq
    obtain ⟨hparameters, hvalue⟩ := Parameters.line_cut (hp.isWord_parametersOf target card)
      (hq.isWord_parametersOf target other) (hcolon p) (hcolon q) hrest
    rw [reading, reading, hgroup, hname, hparameters,
      String.toList_inj.1 (List.cons.inj hvalue).2]
  · intro heq
    obtain ⟨hgroup, hname, hparameters, hvalue⟩ := Reading.mk.inj heq
    rw [lineOf, lineOf, line, line, hgroup, hname, Parameters.line_of_said_eq hparameters, hvalue]

/-- The line of a worded property does not break. -/
theorem isUnbroken_lineOf {p : Property} (hp : p.IsWorded) (target : Target) (card : Card) :
    IsUnbroken (lineOf target card (Scalar.ofName? p.groupName?) p).toList := by
  have hlead : IsUnbroken (p.groupName?.elim "" (· ++ ".")).toList := by
    have hwords := hp.isWord_groupName?
    cases hgroup : p.groupName? with
    | none => simp
    | some s =>
        rw [hgroup] at hwords
        simpa using (hwords s rfl).isUnbroken
  have hparameters := (isUnbroken_parametersLine_iff (card.parametersOf target p)).2
    fun name hname => (hp.isWord_parametersOf target card name hname).isUnbroken
  have hcolon : ':' ≠ '\r' ∧ ':' ≠ '\n' := by decide
  rw [toList_lineOf hp]
  simp only [Text.isUnbroken_append, Text.isUnbroken_cons]
  exact ⟨hlead, hp.name.upper.isUnbroken, hparameters, hcolon, isUnbroken_plainValue hp.separator⟩

/-! ## Records -/

/-- Lines that do not break are told apart in a text that closes each of them. -/
theorem closed_inj {lines others : List String} (hlines : ∀ line ∈ lines, IsUnbroken line.toList)
    (hothers : ∀ line ∈ others, IsUnbroken line.toList) (heq : closed lines = closed others) :
    lines = others := by
  rw [← linesOf_closed hlines, heq, linesOf_closed hothers]

theorem block_eq_closed (version : Version) (lines : List String) :
    block version lines = closed ["BEGIN:VCARD", "VERSION:" ++ version.number] ++
      (closed lines ++ closed ["END:VCARD"]) := by
  rw [← String.toList_inj]
  simp [block, closed, String.join_cons]

theorem block_inj {version : Version} {lines others : List String}
    (hlines : ∀ line ∈ lines, IsUnbroken line.toList)
    (hothers : ∀ line ∈ others, IsUnbroken line.toList)
    (heq : block version lines = block version others) : lines = others := by
  rw [block_eq_closed, block_eq_closed, ← String.toList_inj] at heq
  simp only [String.toList_append, List.append_cancel_left_eq, List.append_cancel_right_eq,
    String.toList_inj] at heq
  exact closed_inj hlines hothers heq

/-- On cards of worded properties the text of a record says exactly which properties are
written: their groups, names, parameters and values, in order. -/
theorem output_eq_iff {card other : Card} (hcard : ∀ p ∈ card.properties, p.IsWorded)
    (hother : ∀ q ∈ other.properties, q.IsWorded) (target : Target) :
    ∃ r s, record target card = .ok r ∧ record target other = .ok s ∧
      (r.output = s.output ↔
        (card.emitted target).map (reading target card) =
          (other.emitted target).map (reading target other)) := by
  have hemitted : ∀ {c : Card}, (∀ p ∈ c.properties, p.IsWorded) →
      ∀ p ∈ c.emitted target, p.IsWorded := by
    intro c hc p hp
    exact (Card.forall_listed_iff Property.isWorded_generatorProperty).2 hc p
      (Card.mem_emitted.1 hp).1
  have hunbroken : ∀ {c : Card}, (∀ p ∈ c.properties, p.IsWorded) →
      ∀ line ∈ (c.emitted target).map (fun p =>
        lineOf target c (Scalar.ofName? p.groupName?) p), IsUnbroken line.toList := by
    intro c hc
    rw [List.forall_mem_map]
    exact fun p hp => isUnbroken_lineOf (hemitted hc p hp) target c
  refine ⟨_, _, record_eq_byName (fun p hp => (hcard p hp).hasNamedGroup) target,
    record_eq_byName (fun q hq => (hother q hq).hasNamedGroup) target, ?_⟩
  change assemble target.version _ = assemble target.version _ ↔ _
  rw [assemble_byName, assemble_byName]
  calc block target.version _ = block target.version _
      ↔ (card.emitted target).map (fun p => lineOf target card (Scalar.ofName? p.groupName?) p) =
          (other.emitted target).map fun q =>
            lineOf target other (Scalar.ofName? q.groupName?) q :=
        ⟨block_inj (hunbroken hcard) (hunbroken hother), congrArg _⟩
    _ ↔ (card.emitted target).map (reading target card) =
          (other.emitted target).map (reading target other) :=
        map_eq_map_iff_of_forall fun p hp q hq =>
          lineOf_eq_iff (hemitted hcard p hp) (hemitted hother q hq) target card other

/-- A card with a grouped list, whose parameter has some value and an empty one. -/
def tellingCard (said : String) : Card where
  standard := [
    .formattedName (some "a;b:c"),
    { Property.organization ["x;y", ""] with
      group := .text "home"
      parameters := (Parameters.empty.put "x-p" said).put "x-p" "" }]

theorem isWorded_tellingCard (said : String) :
    ∀ p ∈ (tellingCard said).properties, p.IsWorded := by
  have hempty : ∀ name ∈ Parameters.empty.names, Text.IsWord name := by
    intro name hname
    cases hname
  have hword : Text.IsWord "x-p" := by decide
  simp only [tellingCard, Card.properties, Roster.members, Roster.allExtended, List.flatMap_nil,
    List.append_nil, List.forall_mem_cons, List.not_mem_nil, false_imp_iff, implies_true, and_true]
  constructor
  · exact ⟨.inl rfl, by decide, hempty, by simp [Property.formattedName],
      by simp [Property.formattedName]⟩
  · exact ⟨.inr ⟨"home", by decide, by decide, rfl⟩, (by decide : Text.IsWord "ORG"),
      Parameters.isWord_put (Parameters.isWord_put hempty hword said) hword "",
      by simp [Property.organization], by simp [Property.organization]⟩

/-- Both spellings of a line break give one text, and a caret before an `n`, which is what
a line break becomes, gives another. -/
theorem output_eq_iff_tellingCard :
    (∀ p ∈ (tellingCard "1\r\n2").properties, p.IsWorded) ∧
      (∀ p ∈ (tellingCard "1\n2").properties, p.IsWorded) ∧
      (∀ p ∈ (tellingCard "1^n2").properties, p.IsWorded) ∧
      ∃ crlf lf caret, record {} (tellingCard "1\r\n2") = .ok crlf ∧
        record {} (tellingCard "1\n2") = .ok lf ∧ record {} (tellingCard "1^n2") = .ok caret ∧
        crlf.output = lf.output ∧ crlf.output ≠ caret.output := by
  have hcrlf := isWorded_tellingCard "1\r\n2"
  have hlf := isWorded_tellingCard "1\n2"
  have hcaret := isWorded_tellingCard "1^n2"
  obtain ⟨crlf, lf, hr, hs, heq⟩ := output_eq_iff hcrlf hlf {}
  obtain ⟨same, caret, hr', ht, hne⟩ := output_eq_iff hcrlf hcaret {}
  obtain rfl : crlf = same := Except.ok.inj (hr.symm.trans hr')
  exact ⟨hcrlf, hlf, hcaret, crlf, lf, caret, hr, hs, ht, heq.2 (by decide +kernel),
    fun h => absurd (hne.1 h) (by decide +kernel)⟩

end PlainText

end ContactCard
