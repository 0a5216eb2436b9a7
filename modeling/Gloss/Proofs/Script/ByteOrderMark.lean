import Gloss.Proofs.Text.LineIndex
import Gloss.Script.Calls

namespace Gloss.Script

def CallSite.behindMark (site : CallSite) : CallSite where
  key := site.key
  start := site.start + 3
  stop := site.stop + 3
  stopPosition :=
    if site.stopPosition.line = 0 then ⟨0, site.stopPosition.character + 1⟩ else site.stopPosition

theorem withoutMark_of_marked (text : List Char) : withoutMark (byteOrderMark :: text) = (text, 3) := rfl

theorem withoutMark_of_unmarked {text : List Char} (h : text.head? ≠ some byteOrderMark) : withoutMark text = (text, 0) := by
  cases text with
  | nil => rfl
  | cons c text =>
    rw [withoutMark, if_neg]
    rintro rfl
    exact h rfl

theorem ofLiteral_behindMark (text : List Char) (l : Literal) :
    CallSite.ofLiteral (LineIndex.ofText (byteOrderMark :: text)) 3 l =
      (CallSite.ofLiteral (LineIndex.ofText text) 0 l).behindMark := by
  have hposition := LineIndex.position_cons (show byteOrderMark ≠ '\n' by decide) text l.stop
  rw [show byteOrderMark.utf8Size = 3 from rfl, show Utf16.width byteOrderMark = 1 from rfl] at hposition
  simp only [CallSite.ofLiteral, CallSite.behindMark, Nat.zero_add, Nat.add_comm 3, hposition]

/-- A mark before a document only moves its call sites, and the document parses with it just when it does without. -/
theorem scan_behindMark {document : String} (h : document.toList.head? ≠ some byteOrderMark) (function : String)
    (language : Language) :
    CallSite.scan (byteOrderMark.toString ++ document) function language =
        (CallSite.scan document function language).map CallSite.behindMark ∧
      parse? language (withoutMark (byteOrderMark.toString ++ document).toList).1 =
        parse? language (withoutMark document.toList).1 := by
  have hmarked : (byteOrderMark.toString ++ document).toList = byteOrderMark :: document.toList := by simp
  simp only [CallSite.scan, CallSite.scanBy, hmarked, withoutMark_of_marked, withoutMark_of_unmarked h]
  refine ⟨?_, trivial⟩
  cases parse? language document.toList with
  | none => rfl
  | some t =>
    rw [List.map_map]
    exact List.map_congr_left fun l _ => ofLiteral_behindMark document.toList l

theorem greetings_behindMark : "t('a');\nt('b')".toList.head? ≠ some byteOrderMark ∧
    CallSite.scan (byteOrderMark.toString ++ "t('a');\nt('b')") "t" .typescript =
      (CallSite.scan "t('a');\nt('b')" "t" .typescript).map CallSite.behindMark ∧
    (CallSite.scan "t('a');\nt('b')" "t" .typescript).map CallSite.behindMark =
      [⟨"a", 5, 8, ⟨0, 6⟩⟩, ⟨"b", 13, 16, ⟨1, 5⟩⟩] := by
  have h : "t('a');\nt('b')".toList.head? ≠ some byteOrderMark := by decide
  exact ⟨h, (scan_behindMark h "t" .typescript).1, by decide +kernel⟩

end Gloss.Script
