import Gloss.Proofs.Script.Keys
import Gloss.Proofs.Script.PlainCall
import Gloss.Proofs.Text.LineIndex
import Gloss.Proofs.Text.Utf16

namespace Gloss.Script

namespace Token

structure Begins (token : Token) (piece rest : List Char) : Prop where
  close : ∀ newline, gap .blank (piece ++ rest) 0 newline = some (0, newline)
  read : read? (piece ++ rest) = some (token, piece.length)

theorem gap_front {c : Char} (hs : c ≠ '/') (hl : isLineBreak c = false) (hb : isBlank c = false) (cs : List Char)
    (n : Nat) (newline : Bool) : gap .blank (c :: cs) n newline = some (n, newline) := by
  simp [gap, hs, hl, hb]

theorem begins_name (rest : List Char) : Begins (.word "t" false) ['t'] ('(' :: rest) where
  close := gap_front (by decide) (by decide) (by decide) _ 0
  read := by
    have hbegins : beginsWord 't' = true := by decide
    have hletters : letters 0 ('t' :: '(' :: rest) = some (['t'], 1, false) := by
      simp [letters, show isWordPart 't' = true by decide, show isWordPart '(' = false by decide]
    have hword : word? ('t' :: '(' :: rest) = some ("t", 1, false) := by
      rw [word?, hletters]
      rfl
    simp [read?, hbegins, hword]

theorem begins_open (rest : List Char) : Begins (.sign "(") ['('] rest where
  close := gap_front (by decide) (by decide) (by decide) _ 0
  read := by
    have hbegins : beginsWord '(' = false := by decide
    have hdigit : isDigit '(' = false := by decide
    have hsign : sign? ('(' :: rest) = some (.sign "(", 1) := by rfl
    simp [read?, hbegins, hdigit, hsign]

theorem begins_shut : Begins (.sign ")") [')'] [] where
  close := gap_front (by decide) (by decide) (by decide) _ 0
  read := by rfl

theorem begins_finish : Begins .finish [] [] := ⟨fun _ => rfl, rfl⟩

section

variable {quote : Char} {body : List Char} (h : ∀ c ∈ body, c ≠ quote ∧ c ≠ '\\' ∧ c ≠ '\n' ∧ c ≠ '\r')
  (rest : List Char)

include h

theorem quoted_plain : quoted quote 0 (body ++ quote :: rest) = some (body.flatMap Utf16.units, body.length + 1) := by
  induction body with
  | nil => simp [quoted]
  | cons c cs ih =>
    obtain ⟨⟨hq, he, hn, hr⟩, hcs⟩ := List.forall_mem_cons.mp h
    simp [quoted, hq, he, hn, hr, ih hcs]

theorem begins_text (hquote : quote = '"' ∨ quote = '\'') :
    Begins (.text (some (String.ofList body))) (quote :: (body ++ [quote])) rest where
  close := by
    obtain ⟨hs, hl, hb⟩ : quote ≠ '/' ∧ isLineBreak quote = false ∧ isBlank quote = false := by
      rcases hquote with rfl | rfl <;> decide
    exact gap_front hs hl hb _ 0
  read := by
    rw [List.cons_append, List.append_assoc, List.singleton_append, read?, if_pos hquote, text?, quoted_plain h]
    simp [Utf16.decode?_units]

end

end Token

namespace Lexeme

variable {source : List Char} {l : Lexeme source} {offset : Nat} {t t' : Token} {piece piece' rest rest' : List Char}

structure Spans (l : Lexeme source) (offset : Nat) (t : Token) (piece rest : List Char) : Prop where
  token : l.token = t
  start : l.start.offset = offset
  stop : l.stop.offset = offset + byteLength piece
  rest : l.stop.rest = rest

theorem next_spans {c : Cursor source} {newline : Bool} (hrest : c.rest = piece ++ rest) (h : t.Begins piece rest)
    (hcomment : newline = true → "-->".toList.isPrefixOf c.rest = false) :
    (next c newline).Spans c.offset t piece rest := by
  have hnext : next c newline = ofCursor c newline := by
    rw [next, hrest, h.close]
    rfl
  have hno : ¬ (newline = true ∧ "-->".toList.isPrefixOf c.rest = true) := fun ⟨hline, hinitial⟩ =>
    Bool.false_ne_true ((hcomment hline).symm.trans hinitial)
  rw [hnext, ofCursor, if_neg hno]
  split
  · next hread => simp [hrest, h.read] at hread
  · next hread =>
    rw [hrest, h.read] at hread
    obtain ⟨rfl, rfl⟩ := Prod.mk.inj (Option.some.inj hread)
    exact ⟨rfl, rfl, by simp [Cursor.advance, hrest], by simp [Cursor.advance, hrest]⟩

theorem Spans.after (h : l.Spans offset t piece (piece' ++ rest')) (h' : t'.Begins piece' rest') :
    l.after.Spans (offset + byteLength piece) t' piece' rest' := by
  rw [← h.stop]
  exact next_spans h.rest h' (by simp)

end Lexeme

def callText (quote : Char) (body : List Char) : List Char := 't' :: '(' :: quote :: (body ++ [quote, ')'])

def siteOfCall (body : List Char) : CallSite where
  key := String.ofList body
  start := 2
  stop := byteLength body + 4
  stopPosition := ⟨0, (body.flatMap Utf16.units).length + 4⟩

theorem Tree.keysOfCalls_ofCall (visitor : Visitor) {l : Literal} (hl : l.value.isSome = true) :
    (node .script [node .expressionStatement [ofCall l]]).keysOfCalls visitor "t" = [l] := by
  have harguments : (node .arguments [text l]).keysOfCalls visitor "t" = [] :=
    List.perm_nil.mp (keysOfCalls_arguments visitor "t" l [])
  have hcall : (ofCall l).keysOfCalls visitor "t" = [l] := by
    simpa [ofCall, keyOfCall?, hl, harguments] using
      keysOfCalls_node_perm visitor "t" .call [word "t", node .arguments [text l]]
  have hstatement : (node .expressionStatement [ofCall l]).keysOfCalls visitor "t" = [l] := by
    simpa [keyOfCall?, hcall] using keysOfCalls_node_perm visitor "t" .expressionStatement [ofCall l]
  simpa [keyOfCall?, hstatement] using keysOfCalls_node_perm visitor "t" .script [node .expressionStatement [ofCall l]]

section

variable {quote : Char} (hquote : quote = '"' ∨ quote = '\'') {body : List Char}

include hquote

theorem position_callText (h : '\n' ∉ body) :
    (LineIndex.ofText (callText quote body)).position (byteLength body + 4) =
      ⟨0, (body.flatMap Utf16.units).length + 4⟩ := by
  have hcode : callText quote body = 't' :: '(' :: quote :: (body ++ [quote]) ++ [')'] := by simp [callText]
  have hbreak : '\n' ∉ 't' :: '(' :: quote :: (body ++ [quote]) := by
    have hne : '\n' ≠ quote := by rcases hquote with rfl | rfl <;> decide
    simp [hne, h]
  have hbytes : byteLength ('t' :: '(' :: quote :: (body ++ [quote])) = byteLength body + 4 := by
    have hsize : 't'.utf8Size = 1 ∧ '('.utf8Size = 1 ∧ quote.utf8Size = 1 := by
      rcases hquote with rfl | rfl <;> decide
    simp only [byteLength_cons, byteLength_append, byteLength_nil, hsize]
    omega
  have hunits : (('t' :: '(' :: quote :: (body ++ [quote])).flatMap Utf16.units).length =
      (body.flatMap Utf16.units).length + 4 := by
    have hwidth : Utf16.width 't' = 1 ∧ Utf16.width '(' = 1 ∧ Utf16.width quote = 1 := by
      rcases hquote with rfl | rfl <;> decide
    simp only [List.flatMap_cons, List.flatMap_append, List.flatMap_nil, List.length_append, Utf16.length_units, hwidth,
      List.length_nil]
    omega
  have hposition := LineIndex.position_of_not_mem hbreak [')']
  rwa [hbytes, hunits, ← hcode] at hposition

variable (h : ∀ c ∈ body, c ≠ quote ∧ c ≠ '\\' ∧ c ≠ '\n' ∧ c ≠ '\r')

include h

theorem callText_isCall :
    (State.start (callText quote body)).ahead.IsCall (some (String.ofList body)) ∧
      (State.start (callText quote body)).ahead.after.after.literal (some (String.ofList body)) =
        ⟨2, byteLength body + 4, some (String.ofList body)⟩ := by
  have hstart : (State.start (callText quote body)).ahead = Lexeme.next (.start _) true := rfl
  have hname : (State.start (callText quote body)).ahead.Spans 0 (.word "t" false) ['t']
      ('(' :: quote :: (body ++ [quote, ')'])) := by
    rw [hstart]
    exact Lexeme.next_spans rfl (Token.begins_name _) fun _ => rfl
  have hopens := hname.after (Token.begins_open _)
  have hsplit : quote :: (body ++ [quote, ')']) = (quote :: (body ++ [quote])) ++ [')'] := by simp
  rw [hsplit] at hopens
  have htext := hopens.after (Token.begins_text h _ hquote)
  have hshuts := htext.after Token.begins_shut
  have hfinish := hshuts.after Token.begins_finish
  refine ⟨⟨hname.token, hopens.token, htext.token, hshuts.token, hfinish.token⟩, ?_⟩
  have hsize : 't'.utf8Size = 1 ∧ '('.utf8Size = 1 ∧ quote.utf8Size = 1 := by
    rcases hquote with rfl | rfl <;> decide
  rw [Lexeme.literal, htext.start, htext.stop]
  simp [hsize]
  omega

theorem parse?_callText (language : Language) : parse? language (callText quote body) =
    some (.node .script [.node .expressionStatement [.ofCall ⟨2, byteLength body + 4, some (String.ofList body)⟩]]) := by
  obtain ⟨hcall, hliteral⟩ := callText_isCall hquote h
  have hbound : 1 < (outermost language (callText quote body)).bound := by simp [outermost]
  obtain ⟨s, hs⟩ := Rule.script_call hcall rfl hbound (8 * (callText quote body).length + 28)
  have hfinal : finalState? language (callText quote body) = some s := congrArg (Option.map Prod.snd) hs.run
  have hflawed : s.flawed = false := hs.flawed
  have hforest := hs.forest
  rw [hliteral] at hforest
  rw [parse?, hfinal, Option.bind_some, hforest, hflawed]
  rfl

theorem scan_callText (language : Language) {document : String} (hdocument : document.toList = callText quote body) :
    CallSite.scan document "t" language = [siteOfCall body] := by
  have hmark : withoutMark (callText quote body) = (callText quote body, 0) := rfl
  have hposition := position_callText hquote fun hm : '\n' ∈ body => (h _ hm).2.2.1 rfl
  rw [CallSite.scan, CallSite.scanBy, hdocument, hmark]
  simp [parse?_callText hquote h, Tree.keysOfCalls_ofCall, CallSite.ofLiteral, hposition, siteOfCall]

end

end Gloss.Script
