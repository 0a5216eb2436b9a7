import Gloss.Engine
import Gloss.Proofs.Hint.Candidates
import Gloss.Proofs.Script.CallText

namespace Gloss.Engine

theorem mem_completions_iff (engine : Engine) (candidate : Candidate) :
    candidate ∈ engine.completions ↔
      ∃ raw, engine.dictionary[candidate.key]? = some raw ∧ Escape.decode raw = candidate.text :=
  Candidate.mem_ofDictionary_iff

/-- Any offered key without escapes can be quoted: the call has one hint, which is the candidate's. -/
theorem accepted_completion_hinted {engine : Engine} (hfunction : engine.config.function = "t") {candidate : Candidate}
    (hoffered : candidate ∈ engine.completions) (htext : candidate.text ≠ "")
    (hkey : ∀ c ∈ candidate.key.toList, c ≠ '\\' ∧ Script.isLineBreak c = false) {quote : Char}
    (hquote : quote = '"' ∨ quote = '\'') (hfree : quote ∉ candidate.key.toList) :
    engine.hints ("t(" ++ quote.toString ++ candidate.insertion ++ quote.toString ++ ")") =
      [⟨candidate.key, candidate.key.utf8ByteSize + 4,
        ⟨0, (candidate.key.toList.flatMap Utf16.units).length + 4⟩, candidate.text⟩] := by
  obtain ⟨raw, hraw, hdecoded⟩ := (mem_completions_iff engine candidate).mp hoffered
  have hbody : ∀ c ∈ candidate.key.toList, c ≠ quote ∧ c ≠ '\\' ∧ c ≠ '\n' ∧ c ≠ '\r' := by
    intro c hc
    obtain ⟨hslash, hbreak⟩ := hkey c hc
    refine ⟨fun heq => hfree (heq ▸ hc), hslash, ?_, ?_⟩
    · rintro rfl
      cases hbreak
    · rintro rfl
      cases hbreak
  have hdocument : ("t(" ++ quote.toString ++ candidate.insertion ++ quote.toString ++ ")").toList =
      Script.callText quote candidate.key.toList := by
    simp [Script.callText, Candidate.insertion]
  have hscan := Script.scan_callText hquote hbody .typescriptReact hdocument
  have hempty : candidate.text.isEmpty = false := by simpa using htext
  have hhints (document : String) : engine.hints document =
      Hint.resolve (Script.CallSite.scan document engine.config.function .typescriptReact) engine.dictionary := rfl
  rw [hhints, hfunction, hscan]
  simp [Hint.resolve, Hint.ofSite?, Script.siteOfCall, hraw, hdecoded, hempty]

def greetingEngine : Engine where
  root := .ofText "/p"
  config := {}
  dictionary := Dictionary.ofPairs [("it\"s 😀", "Hi\\u0021")]

theorem quoted_key_hinted :
    (⟨"it\"s 😀", "Hi!"⟩ : Candidate) ∈ greetingEngine.completions ∧
      greetingEngine.hints "t('it\"s 😀')" = [⟨"it\"s 😀", 13, ⟨0, 11⟩, "Hi!"⟩] := by
  have hoffered : (⟨"it\"s 😀", "Hi!"⟩ : Candidate) ∈ greetingEngine.completions :=
    (mem_completions_iff _ _).mpr ⟨"Hi\\u0021", by decide, by cbv⟩
  have hkey : ∀ c ∈ "it\"s 😀".toList, c ≠ '\\' ∧ Script.isLineBreak c = false := by
    simp [Script.isLineBreak]
  have hdocument : "t('it\"s 😀')" = "t(" ++ '\''.toString ++ "it\"s 😀" ++ '\''.toString ++ ")" := by decide +kernel
  have hhints := accepted_completion_hinted rfl hoffered (by decide) hkey (.inr rfl) (by decide +kernel)
  rw [hdocument]
  exact ⟨hoffered, hhints.trans (by decide +kernel)⟩

end Gloss.Engine
