import LocaleStaging.Markup.Tag

namespace LocaleStaging.Markup

def quoteAfter (quote : Option UInt8) : Bytes → Option (Option UInt8)
  | [] => some quote
  | octet :: rest =>
    match quote with
    | some mark => quoteAfter (if octet = mark then none else quote) rest
    | none =>
      if octet = '>'.toUInt8 then none
      else if octet = '"'.toUInt8 ∨ octet = '\''.toUInt8 then quoteAfter (some octet) rest
      else quoteAfter none rest

def Enclosed (content : Bytes) : Prop := quoteAfter none content = some none

instance (content : Bytes) : Decidable (Enclosed content) :=
  inferInstanceAs (Decidable (quoteAfter none content = some none))

theorem quoteAfter_append (quote : Option UInt8) (first second : Bytes) :
    quoteAfter quote (first ++ second) =
      (quoteAfter quote first).bind fun after => quoteAfter after second := by
  induction first generalizing quote with
  | nil => rfl
  | cons octet first ih =>
      cases quote with
      | some mark => exact ih _
      | none =>
          simp only [List.cons_append, quoteAfter]
          split
          next => rfl
          split
          next => exact ih _
          next => exact ih _

theorem Enclosed.append {first second : Bytes} (left : Enclosed first) (right : Enclosed second) :
    Enclosed (first ++ second) := by
  unfold Enclosed at *
  rw [quoteAfter_append, left]
  exact right

theorem quoteAfter_value {mark : UInt8} {value : Bytes} (free : mark ∉ value) (rest : Bytes) :
    quoteAfter (some mark) (value ++ mark :: rest) = quoteAfter none rest := by
  induction value with
  | nil => simp [quoteAfter]
  | cons octet value ih =>
      have other : octet ≠ mark := fun same => free (same ▸ List.mem_cons_self)
      simp only [List.cons_append, quoteAfter, other, if_false]
      exact ih fun member => free (List.mem_cons_of_mem octet member)

theorem Enclosed.of_quoted {mark : UInt8} {value : Bytes}
    (quotes : mark = '"'.toUInt8 ∨ mark = '\''.toUInt8) (free : mark ∉ value) :
    Enclosed (mark :: value ++ [mark]) := by
  have no_bracket : mark ≠ '>'.toUInt8 := by
    rcases quotes with rfl | rfl <;> decide
  simp only [Enclosed, List.cons_append, quoteAfter, no_bracket, if_false, quotes, if_true]
  exact quoteAfter_value free []

theorem Enclosed.of_plain {octets : Bytes} (no_bracket : '>'.toUInt8 ∉ octets)
    (no_quote : '"'.toUInt8 ∉ octets) (no_apostrophe : '\''.toUInt8 ∉ octets) : Enclosed octets := by
  induction octets with
  | nil => rfl
  | cons octet octets ih =>
      simp only [List.mem_cons, not_or] at no_bracket no_quote no_apostrophe
      have rest := ih no_bracket.2 no_quote.2 no_apostrophe.2
      simp only [Enclosed, quoteAfter, Ne.symm no_bracket.1, Ne.symm no_quote.1,
        Ne.symm no_apostrophe.1, or_self, if_false]
      exact rest

/-! ## Reading tags -/

theorem tagsFrom_cons (state : State) (octet : UInt8) (rest : Bytes) :
    tagsFrom state (octet :: rest) = (step state octet).1 ++ tagsFrom (step state octet).2 rest := rfl

theorem tagsFrom_within {quote after : Option UInt8} {content : Bytes}
    (quoting : quoteAfter quote content = some after) (seen rest : Bytes) :
    tagsFrom (.tag quote seen) (content ++ rest) =
      tagsFrom (.tag after (content.reverse ++ seen)) rest := by
  induction content generalizing quote seen with
  | nil =>
      cases quoting
      rfl
  | cons octet content ih =>
      rw [List.cons_append, tagsFrom_cons]
      cases quote with
      | some mark =>
          simp only [quoteAfter] at quoting
          simp only [step, stepTag, List.nil_append]
          rw [ih quoting]
          simp
      | none =>
          simp only [quoteAfter] at quoting
          split at quoting
          next => cases quoting
          next no_bracket =>
            simp only [step, stepTag, no_bracket, if_false]
            split at quoting
            next mark =>
              simp only [mark, if_true, List.nil_append]
              rw [ih quoting]
              simp
            next no_mark =>
              simp only [no_mark, if_false, List.nil_append]
              rw [ih quoting]
              simp

/-- What follows the opening bracket of a tag is read inside the tag. A declaration and an instruction
are told from a tag by their first octet. -/
theorem tagsFrom_entered {content : Bytes} {quote : Option UInt8} (filled : content ≠ [])
    (quoting : quoteAfter none content = some quote)
    (no_declaration : content.head? ≠ some '!'.toUInt8)
    (no_instruction : content.head? ≠ some '?'.toUInt8) (rest : Bytes) :
    tagsFrom .text ('<'.toUInt8 :: (content ++ rest)) =
      tagsFrom (.tag quote content.reverse) rest := by
  obtain ⟨octet, content, rfl⟩ := List.exists_cons_of_ne_nil filled
  have bracket : step .text '<'.toUInt8 = ([], .opened) := rfl
  simp only [List.head?_cons, ne_eq, Option.some.injEq] at no_declaration no_instruction
  have entered : step .opened octet = step (.tag none []) octet := by
    simp only [step, no_declaration, no_instruction, if_false]
  rw [tagsFrom_cons, bracket, List.cons_append, List.nil_append, tagsFrom_cons, entered,
    ← tagsFrom_cons, ← List.cons_append, tagsFrom_within quoting, List.append_nil]

theorem tagsFrom_tag {content : Bytes} (enclosed : Enclosed content)
    (no_declaration : content.head? ≠ some '!'.toUInt8)
    (no_instruction : content.head? ≠ some '?'.toUInt8) (rest : Bytes) :
    tagsFrom .text ('<'.toUInt8 :: content ++ '>'.toUInt8 :: rest) =
      .ok (Tag.ofContent content) :: tagsFrom .text rest := by
  by_cases bare : content = []
  · subst bare
    rfl
  · rw [List.cons_append, tagsFrom_entered bare enclosed no_declaration no_instruction,
      tagsFrom_cons]
    simp [step, stepTag]

theorem tagsFrom_cut {content cut : Bytes} (enclosed : Enclosed content)
    (no_declaration : content.head? ≠ some '!'.toUInt8)
    (no_instruction : content.head? ≠ some '?'.toUInt8)
    (start : cut <+: '<'.toUInt8 :: content ++ ['>'.toUInt8]) (filled : cut ≠ [])
    (short : cut ≠ '<'.toUInt8 :: content ++ ['>'.toUInt8]) :
    tagsFrom .text cut = [.error (.malformed .unclosedTag)] := by
  obtain ⟨bracket, inside, rfl⟩ := List.exists_cons_of_ne_nil filled
  obtain ⟨rfl, within⟩ :=
    List.cons_prefix_cons.1 ((List.prefix_concat_iff.1 start).resolve_left short)
  by_cases bare : inside = []
  · subst bare
    rfl
  · obtain ⟨rest, rfl⟩ := within
    obtain ⟨octet, inside, rfl⟩ := List.exists_cons_of_ne_nil bare
    rw [Enclosed, quoteAfter_append] at enclosed
    obtain ⟨quote, quoting, -⟩ := Option.bind_eq_some_iff.1 enclosed
    have read := tagsFrom_entered bare quoting no_declaration no_instruction []
    rwa [List.append_nil] at read

/-! ## Kinds of tags -/

theorem ofContent_opening {content : Bytes} (no_slash : content.head? ≠ some '/'.toUInt8)
    (open' : content.getLast? ≠ some '/'.toUInt8) : Tag.ofContent content = .opening content := by
  cases content with
  | nil => rfl
  | cons first rest =>
      have other : first ≠ '/'.toUInt8 := fun same => no_slash (same ▸ rfl)
      simp only [Tag.ofContent, other, if_false]
      rw [if_neg open']

theorem ofContent_selfClosing {content : Bytes} (filled : content ≠ [])
    (no_slash : content.head? ≠ some '/'.toUInt8) :
    Tag.ofContent (content ++ ['/'.toUInt8]) = .selfClosing content := by
  obtain ⟨first, rest, rfl⟩ := List.exists_cons_of_ne_nil filled
  have other : first ≠ '/'.toUInt8 := fun same => no_slash (same ▸ rfl)
  simp only [List.cons_append, Tag.ofContent, other, if_false]
  rw [← List.cons_append, if_pos List.getLast?_concat, List.dropLast_concat]

/-! ## Passing over the rest -/

theorem tagsFrom_text {octets : Bytes} (free : '<'.toUInt8 ∉ octets) (rest : Bytes) :
    tagsFrom .text (octets ++ rest) = tagsFrom .text rest := by
  induction octets with
  | nil => rfl
  | cons octet octets ih =>
      have other : octet ≠ '<'.toUInt8 := fun same => free (same ▸ List.mem_cons_self)
      rw [List.cons_append, tagsFrom_cons]
      simp only [step, other, if_false, List.nil_append]
      exact ih fun member => free (List.mem_cons_of_mem octet member)

theorem tagsFrom_aside_within {kind : Aside} {content seen : Bytes}
    (unclosed : ∀ before after, content = before ++ '>'.toUInt8 :: after →
      kind.closes (before.reverse ++ seen) = false) (rest : Bytes) :
    tagsFrom (.aside kind seen) (content ++ rest) =
      tagsFrom (.aside kind (content.reverse ++ seen)) rest := by
  induction content generalizing seen with
  | nil => rfl
  | cons octet content ih =>
      have within : ¬(octet = '>'.toUInt8 ∧ kind.closes seen) := by
        rintro ⟨rfl, closes⟩
        rw [show kind.closes seen = false from unclosed [] content rfl] at closes
        cases closes
      have later : ∀ before after, content = before ++ '>'.toUInt8 :: after →
          kind.closes (before.reverse ++ octet :: seen) = false := by
        rintro before after rfl
        have found := unclosed (octet :: before) after rfl
        rw [List.reverse_cons, List.append_assoc] at found
        exact found
      rw [List.cons_append, tagsFrom_cons]
      simp only [step, stepAside, within, if_false, List.nil_append]
      rw [ih later, List.reverse_cons, List.append_assoc, List.singleton_append]

theorem tagsFrom_aside_end {kind : Aside} {seen : Bytes} (closes : kind.closes seen)
    (sound : kind.fault? seen.reverse = none) (rest : Bytes) :
    tagsFrom (.aside kind seen) ('>'.toUInt8 :: rest) = tagsFrom .text rest := by
  rw [tagsFrom_cons]
  simp [step, stepAside, closes, sound]

theorem tagsFrom_cut_instruction {content cut : Bytes} (no_bracket : '>'.toUInt8 ∉ content)
    (start : cut <+: '<'.toUInt8 :: '?'.toUInt8 :: content ++ ['>'.toUInt8]) (filled : cut ≠ [])
    (short : cut ≠ '<'.toUInt8 :: '?'.toUInt8 :: content ++ ['>'.toUInt8]) :
    ∃ fault, tagsFrom .text cut = [.error fault] := by
  obtain ⟨bracket, inside, rfl⟩ := List.exists_cons_of_ne_nil filled
  obtain ⟨rfl, within⟩ :=
    List.cons_prefix_cons.1 ((List.prefix_concat_iff.1 start).resolve_left short)
  cases inside with
  | nil => exact ⟨_, rfl⟩
  | cons mark inside =>
      obtain ⟨rfl, later⟩ := List.cons_prefix_cons.1 within
      refine ⟨Aside.instruction.unclosed, ?_⟩
      have entered : tagsFrom .text ('<'.toUInt8 :: '?'.toUInt8 :: inside) =
          tagsFrom (.aside .instruction ['?'.toUInt8]) (inside ++ []) := by
        rw [List.append_nil]
        rfl
      rw [entered, tagsFrom_aside_within]
      · rfl
      · rintro before after rfl
        exact absurd (later.subset (by simp)) no_bracket

theorem not_infix_of_not_mem {octet : UInt8} {start content : Bytes} (absent : octet ∉ content) :
    ¬start ++ [octet] <:+: content :=
  fun found => absent (found.subset (by simp))

theorem infix_of_infix_append {octet : UInt8} {start content tail : Bytes} (apart : octet ∉ tail)
    (found : start ++ [octet] <:+: content ++ tail) : start ++ [octet] <:+: content := by
  obtain ⟨before, after, same⟩ := found
  rcases List.append_eq_append_iff.1 same with ⟨more, whole, -⟩ | ⟨more, whole, split⟩
  · exact ⟨before, more, whole.symm⟩
  · -- What is found reaches into the tail only if its last octet is there.
    rcases List.eq_nil_or_concat more with bare | ⟨inside, last, rfl⟩
    · subst bare
      exact ⟨before, [], by simpa using whole⟩
    · rw [List.concat_eq_append, ← List.append_assoc, ← List.append_assoc] at whole
      obtain ⟨-, ended⟩ := List.append_inj' whole rfl
      obtain rfl : octet = last := by simpa using ended
      exact absurd (split ▸ by simp) apart

structure Frame (kind : Aside) (lead ending : Bytes) : Prop where
  enters : ∀ rest, tagsFrom .text ('<'.toUInt8 :: (lead ++ rest)) =
    tagsFrom (.aside kind lead.reverse) rest
  closes : ∀ content, kind.closes (lead ++ (content ++ ending)).reverse
  closes_only : ∀ content, kind.closes (lead ++ content).reverse → ending <:+ content
  sound : ∀ content, kind.fault? (lead ++ content) = none
  no_bracket : '>'.toUInt8 ∉ ending

theorem tagsFrom_aside {kind : Aside} {lead ending content : Bytes} (frame : Frame kind lead ending)
    (free : ¬ending ++ ['>'.toUInt8] <:+: content) (rest : Bytes) :
    tagsFrom .text ('<'.toUInt8 :: (lead ++ (content ++ (ending ++ '>'.toUInt8 :: rest)))) =
      tagsFrom .text rest := by
  have unclosed : ∀ before after, content ++ ending = before ++ '>'.toUInt8 :: after →
      kind.closes (before.reverse ++ lead.reverse) = false := by
    intro before after split
    rw [Bool.eq_false_iff]
    intro closes
    rw [← List.reverse_append] at closes
    obtain ⟨start, rfl⟩ := frame.closes_only before closes
    refine free (infix_of_infix_append frame.no_bracket ⟨start, after, ?_⟩)
    rw [split]
    simp
  rw [frame.enters, ← List.append_assoc content, tagsFrom_aside_within unclosed]
  apply tagsFrom_aside_end
  · rw [← List.reverse_append]
    exact frame.closes content
  · rw [← List.reverse_append, List.reverse_reverse]
    exact frame.sound _

/-- Markup that ends with two equal octets, both of them after what it begins with. -/
theorem frame_of_pair {kind : Aside} {lead : Bytes} {mark : UInt8} (other : mark ≠ '>'.toUInt8)
    (enters : ∀ rest, tagsFrom .text ('<'.toUInt8 :: (lead ++ rest)) =
      tagsFrom (.aside kind lead.reverse) rest)
    (short : ∀ content : Bytes, content.length < 2 → kind.closes (content ++ lead.reverse) = false)
    (pair : ∀ (last before : UInt8) (content : Bytes),
      kind.closes (last :: before :: (content ++ lead.reverse)) ↔ last = mark ∧ before = mark)
    (sound : ∀ content, kind.fault? (lead ++ content) = none) : Frame kind lead [mark, mark] := by
  refine ⟨enters, ?_, ?_, sound, by simp [other.symm]⟩
  · intro content
    simpa using (pair mark mark content.reverse).2 ⟨rfl, rfl⟩
  · intro content closes
    obtain ⟨turned, rfl⟩ : ∃ turned, content = turned.reverse := ⟨content.reverse, by simp⟩
    rw [List.reverse_append, List.reverse_reverse] at closes
    match turned with
    | [] => cases closes.symm.trans (short [] (by decide))
    | [last] => cases closes.symm.trans (short [last] Nat.one_lt_two)
    | last :: before :: turned =>
        obtain ⟨rfl, rfl⟩ := (pair last before turned).1 closes
        exact ⟨turned.reverse, by simp⟩

theorem frame_comment : Frame .comment (Utf8.encode "!--") (Utf8.encode "--") := by
  have length : (Utf8.encode "!--").length = 3 := by decide
  have ending : Utf8.encode "--" = ['-'.toUInt8, '-'.toUInt8] := by decide
  rw [ending]
  refine frame_of_pair (by decide) (fun _ => rfl) ?_ ?_ ?_
  · intro content short
    have few : ¬ 5 ≤ (content ++ (Utf8.encode "!--").reverse).length := by
      rw [List.length_append, List.length_reverse, length]
      omega
    simp only [Aside.closes, few, decide_false, Bool.and_false]
  · intro last before content
    simp [Aside.closes, length]
  · intro content
    rw [Aside.fault?, if_pos (List.isPrefixOf_iff_prefix.2 (List.prefix_append _ _))]

theorem frame_data : Frame .data (Utf8.encode "![CDATA[") (Utf8.encode "]]") := by
  have lead : (Utf8.encode "![CDATA[").reverse = '['.toUInt8 :: (Utf8.encode "![CDATA").reverse := by
    decide
  have ending : Utf8.encode "]]" = [']'.toUInt8, ']'.toUInt8] := by decide
  have apart : '['.toUInt8 ≠ ']'.toUInt8 := by decide
  rw [ending]
  refine frame_of_pair (by decide) (fun _ => rfl) ?_ ?_ ?_
  · intro content short
    rw [lead]
    match content with
    | [] => simp [Aside.closes, apart]
    | [last] => simp [Aside.closes, apart]
  · intro last before content
    simp [Aside.closes]
  · intro content
    rw [Aside.fault?, if_pos (List.isPrefixOf_iff_prefix.2 (List.prefix_append _ _))]

theorem frame_instruction {target : Bytes} (filled : target ≠ []) (no_bracket : '>'.toUInt8 ∉ target)
    (no_mark : '?'.toUInt8 ∉ target) :
    Frame .instruction ('?'.toUInt8 :: target) ['?'.toUInt8] := by
  refine ⟨?_, ?_, ?_, ?_, by decide⟩
  · intro rest
    have entered : tagsFrom .text ('<'.toUInt8 :: '?'.toUInt8 :: (target ++ rest)) =
        tagsFrom (.aside .instruction ['?'.toUInt8]) (target ++ rest) := rfl
    rw [List.cons_append, entered, tagsFrom_aside_within, List.reverse_cons]
    rintro before after rfl
    exact absurd (by simp) no_bracket
  · intro content
    simp [Aside.closes]
  · intro content closes
    rcases List.eq_nil_or_concat content with rfl | ⟨before, last, rfl⟩
    · obtain ⟨before, last, rfl⟩ := (List.eq_nil_or_concat target).resolve_left filled
      obtain rfl : last = '?'.toUInt8 := by simpa [Aside.closes] using closes
      exact absurd (by simp) no_mark
    · obtain rfl : last = '?'.toUInt8 := by simpa [Aside.closes] using closes
      exact ⟨before, by simp⟩
  · intro content
    obtain ⟨first, target, rfl⟩ := List.exists_cons_of_ne_nil filled
    simp [Aside.fault?]

/-! ## The document type -/

/-- What is left of octets after the bracket that closes the innermost of some open brackets and all
that are opened on the way, if there is one. -/
def afterBracket (depth : Nat) : Bytes → Option Bytes
  | [] => none
  | octet :: rest =>
    if octet = '<'.toUInt8 then afterBracket (depth + 1) rest
    else if octet = '>'.toUInt8 then
      match depth with
      | 0 => some rest
      | depth + 1 => afterBracket depth rest
    else afterBracket depth rest

theorem afterBracket_append {depth : Nat} {octets left : Bytes}
    (closed : afterBracket depth octets = some left) (rest : Bytes) :
    afterBracket depth (octets ++ rest) = some (left ++ rest) := by
  induction octets generalizing depth with
  | nil => cases closed
  | cons octet octets ih =>
      simp only [List.cons_append, afterBracket] at closed ⊢
      split at closed
      next less =>
        rw [if_pos less]
        exact ih closed
      next no_less =>
        rw [if_neg no_less]
        split at closed
        next greater =>
          rw [if_pos greater]
          cases depth with
          | zero =>
              cases closed
              rfl
          | succ depth => exact ih closed
        next no_greater =>
          rw [if_neg no_greater]
          exact ih closed

/-- A document type ends at the first bracket that closes no other. Without one, it goes on to the end
of the input. -/
theorem tagsFrom_doctype {lead : Bytes}
    (sound : ∀ content, Aside.doctype.fault? (lead ++ content) = none) {octets seen : Bytes}
    {depth : Nat} (starts : lead <+: seen.reverse)
    (opened : seen.count '<'.toUInt8 = seen.count '>'.toUInt8 + depth) :
    tagsFrom (.aside .doctype seen) octets =
      match afterBracket depth octets with
      | none => [.error (.malformed .unclosedDoctype)]
      | some left => tagsFrom .text left := by
  induction octets generalizing seen depth with
  | nil => rfl
  | cons octet octets ih =>
      have starts_later : lead <+: (octet :: seen).reverse := by
        rw [List.reverse_cons]
        exact starts.trans (List.prefix_append _ _)
      have stays (open' : ¬(octet = '>'.toUInt8 ∧ Aside.doctype.closes seen)) :
          tagsFrom (.aside .doctype seen) (octet :: octets) =
            tagsFrom (.aside .doctype (octet :: seen)) octets := by
        rw [tagsFrom_cons]
        simp only [step, stepAside, open', if_false, List.nil_append]
      by_cases less : octet = '<'.toUInt8
      · subst less
        rw [stays fun closing => absurd closing.1 (by decide)]
        refine ih starts_later ?_
        rw [List.count_cons_self, List.count_cons_of_ne (by decide), opened, Nat.add_assoc]
      · by_cases greater : octet = '>'.toUInt8
        · subst greater
          cases depth with
          | zero =>
              obtain ⟨more, whole⟩ := starts
              apply tagsFrom_aside_end
              · simp [Aside.closes, opened]
              · rw [← whole]
                exact sound more
          | succ depth =>
              rw [stays (by simp [Aside.closes, opened])]
              refine ih starts_later ?_
              rw [List.count_cons_self, List.count_cons_of_ne (by decide), opened]
              omega
        · simp only [afterBracket, less, greater, if_false]
          rw [stays (by simp [greater])]
          refine ih starts_later ?_
          simp [opened, less, greater]

end LocaleStaging.Markup
