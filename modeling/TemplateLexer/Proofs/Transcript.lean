import TemplateLexer.Proofs.Line
import TemplateLexer.Proofs.Listing
import TemplateLexer.Proofs.Malformed

/-!
# The lines of a listing

What a listing writes is a header and a line for each token that is listed.  A line feed is
one byte, and that byte stands in no other character.  So the lines can be told apart in the
bytes, whatever the text is, and no text adds a line, cuts one or joins two.

* `write_isFaithful`: on a sink without a limit the outcome is that of the tokens of the
  text, and the output is the header and the lines, each ended by its only line feed.
* `listed_isAlike`: with spans, two listings that print the same behind their headers are of
  tokens that are alike up to the width of the displays.
-/

namespace TemplateLexer

open Text

/-! ## Lines of bytes -/

namespace Text

/-- Continuation bytes have more than seven bits. -/
theorem le_of_mem_tailUnits {m n k : Nat} (member : m ∈ tailUnits n k) : 0x80 ≤ m := by
  induction k with
  | zero => cases member
  | succ k ih =>
      rw [tailUnits_succ, List.mem_cons] at member
      obtain rfl | later := member
      · exact Nat.le_add_left _ _
      · exact ih later

/-- The byte of a line feed stands in no other character. -/
theorem eq_newline_of_mem_utf8EncodeChar {c : Char} (member : 0x0A ∈ String.utf8EncodeChar c) :
    c = '\n' := by
  have unit : 0x0A ∈ (String.utf8EncodeChar c).map UInt8.toNat :=
    List.mem_map.mpr ⟨0x0A, member, rfl⟩
  rw [map_toNat_utf8EncodeChar, List.mem_cons] at unit
  obtain lead | tail := unit
  · apply Char.toNat_inj.mp
    rw [leadUnit] at lead
    split_ifs at lead
    · exact lead.symm
    all_goals omega
  · have large := le_of_mem_tailUnits tail
    omega

theorem lineFeed_not_mem_encode {t : Text} (oneLine : '\n' ∉ t) : 0x0A ∉ encode t := by
  intro member
  obtain ⟨c, inText, byte⟩ := List.mem_flatMap.mp member
  rw [eq_newline_of_mem_utf8EncodeChar byte] at inText
  exact oneLine inText

end Text

namespace Bytes

/-- The byte of a line feed. -/
def lineFeed : UInt8 := 0x0A

/-- Whether bytes are one line.  They end with a line feed, and there is no other one. -/
def IsLine (bs : Bytes) : Prop := ∃ body, bs = body ++ [lineFeed] ∧ lineFeed ∉ body

theorem isLine_encode {t : Text} (line : Text.IsLine t) : IsLine (encode t) := by
  obtain ⟨body, rfl, oneLine⟩ := line
  exact ⟨encode body, encode_append body ['\n'], lineFeed_not_mem_encode oneLine⟩

/-- There is a line feed for each line. -/
theorem count_flatten {ls : List Bytes} (all : ∀ l ∈ ls, IsLine l) :
    ls.flatten.count lineFeed = ls.length := by
  induction ls with
  | nil => rfl
  | cons l ls ih =>
      obtain ⟨⟨body, rfl, others⟩, later⟩ := List.forall_mem_cons.mp all
      rw [List.flatten_cons, List.count_append, ih later, List.count_append,
        List.count_eq_zero.mpr others, List.count_singleton_self, List.length_cons]
      omega

/-- Lines can be told apart in the bytes that they make up. -/
theorem flatten_inj {ls ls' : List Bytes} (all : ∀ l ∈ ls, IsLine l) (all' : ∀ l ∈ ls', IsLine l)
    (same : ls.flatten = ls'.flatten) : ls = ls' := by
  induction ls generalizing ls' with
  | nil =>
      cases ls' with
      | nil => rfl
      | cons l' ls' =>
          obtain ⟨body, rfl, -⟩ := all' l' List.mem_cons_self
          simp at same
  | cons l ls ih =>
      obtain ⟨⟨body, rfl, others⟩, later⟩ := List.forall_mem_cons.mp all
      cases ls' with
      | nil => simp at same
      | cons l' ls' =>
          obtain ⟨⟨body', rfl, others'⟩, later'⟩ := List.forall_mem_cons.mp all'
          simp only [List.flatten_cons, List.append_assoc, List.singleton_append] at same
          obtain ⟨rfl, rests⟩ := append_cons_inj others others' same
          rw [ih later later' rests]

/-- What is behind the first line of some bytes. -/
def afterLine (bs : Bytes) : Bytes := (bs.dropWhile (· ≠ lineFeed)).tail

theorem afterLine_append {l : Bytes} (line : IsLine l) (bs : Bytes) : afterLine (l ++ bs) = bs := by
  obtain ⟨body, rfl, others⟩ := line
  have goes : ∀ b ∈ body, decide (b ≠ lineFeed) = true := by
    intro b member
    exact decide_eq_true (ne_of_mem_of_not_mem member others)
  rw [afterLine, List.append_assoc, List.dropWhile_append_of_pos goes]
  simp

end Bytes

/-! ## Tokens -/

/-- The tokens of a text, with the last one apart from the others. -/
theorem exists_lex_concat (name : Text) {text : Text} (fits : text.Fits) :
    ∃ front last, lex name text = .ok (front ++ [last]) ∧ (∀ t ∈ front, t.endsRun = false) ∧
      last.endsRun = true ∧ ∀ t ∈ front ++ [last], t.Told := by
  obtain ⟨visits, run⟩ := exists_run_of_text text
  obtain ⟨front, last, made, goes, ends⟩ := run.endsOnce.exists_concat
  refine ⟨front, last, ?_, goes, ends, ?_⟩
  · rw [lex_of_run name fits run, made]
  · rw [← made]
    exact run.told

namespace Listing

variable {settings settings' : Settings} {source source' : Source}
  {front tokens tokens' : List Token} {last : Token}

/-! ## What is printed -/

/-- The tokens of which a line is printed, if a text has some tokens and a last one.  The end of
input is left out if it is not asked for. -/
def listed (settings : Settings) (front : List Token) (last : Token) : List Token :=
  if last.kind = .endOfInput ∧ settings.showEnd = false then front else front ++ [last]

/-- The bytes of the lines of some tokens. -/
def rows (settings : Settings) (tokens : List Token) : List Bytes :=
  tokens.map fun t => (line settings t).encode

/-- The bytes of the header of a template, and of the lines of some tokens. -/
def transcript (settings : Settings) (template : Text) (tokens : List Token) : List Bytes :=
  (header template).encode :: rows settings tokens

theorem filter_isListed (goes : ∀ t ∈ front, t.endsRun = false) :
    (front ++ [last]).filter (isListed settings) = listed settings front last := by
  have others : front.filter (isListed settings) = front := by
    rw [List.filter_eq_self]
    intro t member
    have noEnd : t.kind ≠ .endOfInput := by
      intro kind
      have goes := goes t member
      rw [Token.endsRun, kind] at goes
      cases goes
    simp [isListed, noEnd]
  rw [List.filter_append, others, listed]
  by_cases hidden : last.kind = .endOfInput ∧ settings.showEnd = false
  · rw [if_pos hidden, List.filter_cons_of_neg (by simp [isListed, hidden]), List.filter_nil,
      List.append_nil]
  · rw [if_neg hidden, List.filter_cons_of_pos, List.filter_nil]
    simpa [isListed, imp_iff_not_or] using hidden

theorem flatten_rows (settings : Settings) (tokens : List Token) :
    (rows settings tokens).flatten = encode (tokens.flatMap (line settings)) := by
  rw [List.flatMap_def, encode_flatten, List.map_map]
  rfl

theorem flatten_transcript (goes : ∀ t ∈ front, t.endsRun = false) (template : Text) :
    (transcript settings template (listed settings front last)).flatten =
      (header template ++ lines settings (front ++ [last])).encode := by
  rw [lines, filter_isListed goes, encode_append, ← flatten_rows, transcript, List.flatten_cons]

theorem isLine_of_mem_rows (told : ∀ t ∈ tokens, t.Told) :
    ∀ l ∈ rows settings tokens, l.IsLine := by
  intro l member
  obtain ⟨t, printed, rfl⟩ := List.mem_map.mp member
  exact Bytes.isLine_encode (isLine_line (told t printed) settings)

theorem isLine_of_mem_transcript (template : Text) (told : ∀ t ∈ tokens, t.Told) :
    ∀ l ∈ transcript settings template tokens, l.IsLine :=
  List.forall_mem_cons.mpr
    ⟨Bytes.isLine_encode (isLine_header template), isLine_of_mem_rows told⟩

theorem told_of_mem_listed (told : ∀ t ∈ front ++ [last], t.Told) :
    ∀ t ∈ listed settings front last, t.Told := by
  intro t member
  apply told
  rw [listed] at member
  split at member
  · exact List.mem_append_left _ member
  · exact member

/-! ## The listing of a source -/

/-- On a sink without a limit the header is written and a line for each token that is listed. -/
theorem exists_write_eq (settings : Settings) (fits : source.text.Fits)
    (lexed : lex source.name source.text = .ok (front ++ [last]))
    (goes : ∀ t ∈ front, t.endsRun = false) (chunks : List Bytes) :
    ∃ sink, write settings source ⟨none, chunks⟩ =
        .ok (.ok ⟨(front ++ [last]).length, last.error?⟩, sink) ∧
      sink.contents = Sink.contents ⟨none, chunks⟩ ++
        (transcript settings source.text (listed settings front last)).flatten := by
  obtain ⟨sink, written, contents⟩ := write_unlimited settings fits lexed chunks
  refine ⟨sink, ?_, ?_⟩
  · rw [written, Outcome.ofTokens_concat, Nat.zero_add]
  · rw [contents, flatten_transcript goes]

/-- A listing tells the tokens of a text, whatever the text is.

On a sink without a limit it takes all of them and finds the error of the last one.  It writes
the header and then a line for each token in order, but for the end of input if that is not
asked for.  Every line has one line feed, at its end. -/
theorem write_isFaithful (fits : source.text.Fits) :
    ∃ front last, lex source.name source.text = .ok (front ++ [last]) ∧
      (∀ t ∈ front, t.endsRun = false) ∧
      (last.kind = .endOfInput ∧ last.error? = none ∨
        last.kind = .error ∧ ∃ e, last.error? = some e) ∧
      ∀ settings chunks, ∃ sink,
        write settings source ⟨none, chunks⟩ =
          .ok (.ok ⟨(front ++ [last]).length, last.error?⟩, sink) ∧
        sink.contents = Sink.contents ⟨none, chunks⟩ ++
          (transcript settings source.text (listed settings front last)).flatten ∧
        (∀ l ∈ transcript settings source.text (listed settings front last), l.IsLine) ∧
        (transcript settings source.text (listed settings front last)).flatten.count
          Bytes.lineFeed = 1 + (listed settings front last).length := by
  obtain ⟨front, last, lexed, goes, ends, told⟩ := exists_lex_concat source.name fits
  have lastTold : last.Told := told last List.mem_concat_self
  refine ⟨front, last, lexed, goes, lastTold.cases_of_endsRun ends, ?_⟩
  intro settings chunks
  obtain ⟨sink, written, contents⟩ := exists_write_eq settings fits lexed goes chunks
  have areLines : ∀ l ∈ transcript settings source.text (listed settings front last), l.IsLine :=
    isLine_of_mem_transcript source.text (told_of_mem_listed told)
  refine ⟨sink, written, contents, areLines, ?_⟩
  rw [Bytes.count_flatten areLines, transcript, List.length_cons, rows, List.length_map,
    Nat.add_comm]

/-- The message of an error has the offending character in it, and here that is a separator of
lines. -/
theorem write_isFaithful_of_lineSeparator :
    let source : Source := .ofText ['t'] ['\n', '{', '{', '\u2028']
    source.text.Fits ∧
    ∃ front last, lex source.name source.text = .ok (front ++ [last]) ∧
      (∀ t ∈ front, t.endsRun = false) ∧
      (last.kind = .endOfInput ∧ last.error? = none ∨
        last.kind = .error ∧ ∃ e, last.error? = some e) ∧
      ∀ settings chunks, ∃ sink,
        write settings source ⟨none, chunks⟩ =
          .ok (.ok ⟨(front ++ [last]).length, last.error?⟩, sink) ∧
        sink.contents = Sink.contents ⟨none, chunks⟩ ++
          (transcript settings source.text (listed settings front last)).flatten ∧
        (∀ l ∈ transcript settings source.text (listed settings front last), l.IsLine) ∧
        (transcript settings source.text (listed settings front last)).flatten.count
          Bytes.lineFeed = 1 + (listed settings front last).length := by
  intro source
  have fits : source.text.Fits := by decide
  exact ⟨fits, write_isFaithful fits⟩

/-! ## Reading a listing back -/

/-- Tokens are alike if their lines with spans are the same. -/
theorem isAlike_of_rows (told : ∀ t ∈ tokens, t.Told) (told' : ∀ u ∈ tokens', u.Told)
    (spans : settings.spans = true) (spans' : settings'.spans = true)
    (width : settings.width = settings'.width)
    (same : rows settings tokens = rows settings' tokens') :
    List.Forall₂ (Token.IsAlike settings.width) tokens tokens' := by
  induction tokens generalizing tokens' with
  | nil =>
      cases tokens' with
      | nil => exact .nil
      | cons u tokens' => cases same
  | cons t tokens ih =>
      cases tokens' with
      | nil => cases same
      | cons u tokens' =>
          obtain ⟨tTold, told⟩ := List.forall_mem_cons.mp told
          obtain ⟨uTold, told'⟩ := List.forall_mem_cons.mp told'
          obtain ⟨first, later⟩ := List.cons.inj same
          have lines := Function.LeftInverse.injective decode_encode first
          exact .cons (line_inj tTold uTold spans spans' width lines) (ih told told' later)

/-- What a listing prints behind its header. -/
def afterHeader (settings : Settings) (source : Source) : Except Fault Bytes := do
  let (_, sink) ← write settings source {}
  return sink.contents.afterLine

theorem afterHeader_eq (settings : Settings) (fits : source.text.Fits)
    (lexed : lex source.name source.text = .ok (front ++ [last]))
    (goes : ∀ t ∈ front, t.endsRun = false) :
    afterHeader settings source =
      .ok (rows settings (listed settings front last)).flatten := by
  obtain ⟨sink, written, contents⟩ := exists_write_eq settings fits lexed goes []
  rw [afterHeader, written]
  simp only [bind, Except.bind, pure, Except.pure, Except.ok.injEq]
  rw [contents, transcript, List.flatten_cons]
  exact Bytes.afterLine_append (Bytes.isLine_encode (isLine_header source.text)) _

/-- With spans, a listing determines its tokens up to the width of the displays.  So if two
listings of one width print the same behind their headers, their tokens are alike. -/
theorem listed_isAlike (fits : source.text.Fits) (fits' : source'.text.Fits)
    (spans : settings.spans = true) (spans' : settings'.spans = true)
    (width : settings.width = settings'.width)
    (same : afterHeader settings source = afterHeader settings' source') :
    ∃ front last front' last',
      lex source.name source.text = .ok (front ++ [last]) ∧
      lex source'.name source'.text = .ok (front' ++ [last']) ∧
      List.Forall₂ (Token.IsAlike settings.width) (listed settings front last)
        (listed settings' front' last') := by
  obtain ⟨front, last, lexed, goes, -, told⟩ := exists_lex_concat source.name fits
  obtain ⟨front', last', lexed', goes', -, told'⟩ := exists_lex_concat source'.name fits'
  refine ⟨front, last, front', last', lexed, lexed', ?_⟩
  have areTold : ∀ t ∈ listed settings front last, t.Told := told_of_mem_listed told
  have areTold' : ∀ t ∈ listed settings' front' last', t.Told := told_of_mem_listed told'
  rw [afterHeader_eq settings fits lexed goes, afterHeader_eq settings' fits' lexed' goes',
    Except.ok.injEq] at same
  exact isAlike_of_rows areTold areTold' spans spans' width
    (Bytes.flatten_inj (isLine_of_mem_rows areTold) (isLine_of_mem_rows areTold') same)

/-- Two texts that differ behind the width of the displays, after a quotation mark and a
backslash. -/
theorem listed_isAlike_of_cut :
    let settings : Settings := { spans := true, width := 2 }
    let source : Source := .ofText ['t'] ['"', '\\', 'a']
    let source' : Source := .ofText ['t'] ['"', '\\', 'b']
    afterHeader settings source = afterHeader settings source' ∧
    ∃ front last front' last',
      lex source.name source.text = .ok (front ++ [last]) ∧
      lex source'.name source'.text = .ok (front' ++ [last']) ∧
      List.Forall₂ (Token.IsAlike settings.width) (listed settings front last)
        (listed settings front' last') := by
  intro settings source source'
  have same : afterHeader settings source = afterHeader settings source' := by decide +kernel
  exact ⟨same, listed_isAlike (by decide) (by decide) rfl rfl rfl same⟩

end Listing

end TemplateLexer
