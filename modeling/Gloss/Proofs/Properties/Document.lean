import Gloss.Properties
import Gloss.Proofs.Dictionary.Layers
import Mathlib.Data.List.Basic
import Mathlib.Data.List.Induction

namespace Gloss.Properties

def blanks : List Char := [' ', '\t', '\x0c']

def marked : List Char := ['=', ':', ' ', '\t', '#', '!', '\\']

def writeKey (key : List Char) : List Char := key.flatMap fun c => if c ∈ marked then ['\\', c] else [c]

structure IsKey (key : List Char) : Prop where
  nonempty : key ≠ []
  newline : '\n' ∉ key
  carriage : '\r' ∉ key
  formFeed : '\x0c' ∉ key

structure IsValue (value : List Char) : Prop where
  newline : '\n' ∉ value
  carriage : '\r' ∉ value
  first : ∀ c ∈ value.head?, c ∉ blanks
  even : ∃ stem n, value = stem ++ List.replicate (2 * n) '\\' ∧ stem.getLast? ≠ some '\\'

/-- What may stand between a key and a value: one sign among blanks, or blanks alone if the value does
not begin with a sign. -/
inductive Separates : (gap value : List Char) → Prop
  | sign {before after value} {c : Char} : before ⊆ blanks → c ∈ ['=', ':'] → after ⊆ blanks →
      Separates (before ++ c :: after) value
  | blank {gap value} : gap ≠ [] → gap ⊆ blanks → (∀ c ∈ value.head?, c ∉ ['=', ':']) → Separates gap value

inductive Line : List Char → Option (String × String) → Prop
  | blank {line} : line ⊆ blanks → Line line none
  | remark {lead mark text} : lead ⊆ blanks → mark ∈ ['#', '!'] → '\n' ∉ text → Line (lead ++ mark :: text) none
  | entry {lead key gap value} : lead ⊆ blanks → IsKey key → Separates gap value → IsValue value →
      Line (lead ++ (writeKey key ++ gap ++ value)) (some (String.ofList key, String.ofList value))

inductive Document : List Char → List (String × String) → Prop
  | nil : Document [] []
  | cons {line entry ending rest entries} : Line line entry → ending ∈ [['\n'], ['\r', '\n']] →
      Document rest entries → Document (line ++ ending ++ rest) (entry.toList ++ entries)

theorem isBlank_iff (c : Char) : isBlank c = true ↔ c ∈ blanks := by
  simp [isBlank, blanks, or_assoc]

theorem isSeparator_iff (c : Char) : isSeparator c = true ↔ c ∈ ['=', ':'] := by
  simp [isSeparator]

theorem isEscapable_iff (c : Char) : isEscapable c = true ↔ c ∈ marked := by
  simp [isEscapable, isSeparator, marked, or_assoc]

def chomp (line : List Char) : List Char := if line.getLast? = some '\r' then line.dropLast else line

theorem chomp_of_not_mem {line : List Char} (h : '\r' ∉ line) : chomp line = line := by
  unfold chomp
  split
  · next hlast => exact absurd (List.mem_of_getLast? hlast) h
  · rfl

theorem chomp_concat (line : List Char) : chomp (line ++ ['\r']) = line := by
  simp [chomp]

theorem chomp_cons_cons (c d : Char) (line : List Char) : chomp (c :: d :: line) = c :: chomp (d :: line) := by
  unfold chomp
  rw [List.getLast?_cons_cons, List.dropLast_cons_cons]
  split <;> rfl

theorem physicalLines_append {line : List Char} (h : '\n' ∉ line) (rest : List Char) :
    physicalLines (line ++ '\n' :: rest) = chomp line :: physicalLines rest := by
  induction line with
  | nil => rfl
  | cons c line ih =>
    rw [List.mem_cons, not_or] at h
    obtain ⟨hc, hline⟩ := h
    have ih := ih hline
    -- two characters decide, since `\r\n` is one end
    cases line with
    | nil =>
      by_cases hr : c = '\r'
      · subst hr
        simp [physicalLines, chomp]
      · have : physicalLines (c :: '\n' :: rest) = [c] :: physicalLines rest := by
          rw [physicalLines, physicalLines]
          · exact Ne.symm hc
          · rintro _ rfl
            exact absurd rfl hr
        simp [this, chomp, hr]
    | cons d line =>
      rw [chomp_cons_cons]
      have hd : d ≠ '\n' := fun hd => hline (hd ▸ List.mem_cons_self)
      simp only [List.cons_append] at ih ⊢
      rw [physicalLines]
      · rw [ih]
      · exact Ne.symm hc
      · rintro _ rfl he
        exact hd (List.cons.inj he).1

theorem trim_append {lead : List Char} (h : lead ⊆ blanks) (rest : List Char) : trim (lead ++ rest) = trim rest := by
  rw [trim, List.dropWhile_append_of_pos]
  · rfl
  · intro c hc
    exact (isBlank_iff c).mpr (h hc)

theorem trim_of_first {rest : List Char} (h : ∀ c ∈ rest.head?, c ∉ blanks) : trim rest = rest := by
  cases rest with
  | nil => rfl
  | cons c cs =>
    have hc : isBlank c = false := by
      rw [← Bool.not_eq_true, isBlank_iff]
      exact h c rfl
    rw [trim, List.dropWhile_cons_of_neg (by simp [hc])]

theorem writeKey_cons (c : Char) (cs : List Char) :
    writeKey (c :: cs) = (if c ∈ marked then ['\\', c] else [c]) ++ writeKey cs := by
  simp [writeKey]

theorem blank_of_not_marked {c : Char} (hm : c ∉ marked) (hf : c ≠ '\x0c') : c ∉ blanks := by
  intro hb
  simp only [blanks, List.mem_cons, List.not_mem_nil, or_false] at hb
  rcases hb with rfl | rfl | rfl
  · exact hm (by decide)
  · exact hm (by decide)
  · exact hf rfl

theorem writeKey_first {key : List Char} (h : IsKey key) :
    ∃ c cs, writeKey key = c :: cs ∧ c ∉ blanks ∧ c ∉ ['#', '!'] := by
  obtain ⟨c, cs, rfl⟩ := List.exists_cons_of_ne_nil h.nonempty
  rw [writeKey_cons]
  by_cases hm : c ∈ marked
  · exact ⟨'\\', c :: writeKey cs, by simp [hm], by decide, by decide⟩
  · have hf : c ≠ '\x0c' := fun hf => h.formFeed (hf ▸ List.mem_cons_self)
    refine ⟨c, writeKey cs, by simp [hm], blank_of_not_marked hm hf, fun hr => hm ?_⟩
    rcases List.mem_pair.mp hr with rfl | rfl <;> decide

theorem not_mem_writeKey {c : Char} (hm : c ∉ marked) {key : List Char} (h : c ∉ key) : c ∉ writeKey key := by
  simp only [writeKey, List.mem_flatMap, not_exists, not_and]
  intro d hd hc
  split at hc
  · rcases List.mem_pair.mp hc with rfl | rfl
    · exact hm (by decide)
    · exact h hd
  · exact h (List.mem_singleton.mp hc ▸ hd)

theorem splitEntry_writeKey {key : List Char} (h : '\x0c' ∉ key) (rest : List Char) :
    splitEntry (writeKey key ++ rest) = (key ++ (splitEntry rest).1, (splitEntry rest).2) := by
  induction key with
  | nil => rfl
  | cons c cs ih =>
    rw [List.mem_cons, not_or] at h
    obtain ⟨hc, hcs⟩ := h
    rw [writeKey_cons, List.append_assoc]
    by_cases hm : c ∈ marked
    · have he : isEscapable c = true := (isEscapable_iff c).mpr hm
      simp [hm, splitEntry, ih hcs, he]
    · have hs : isSeparator c = false := by
        rw [← Bool.not_eq_true, isSeparator_iff]
        exact fun hs => hm (by simp_all [marked])
      have hb : isBlank c = false := by
        rw [← Bool.not_eq_true, isBlank_iff]
        exact blank_of_not_marked hm (Ne.symm hc)
      have hbackslash : c ≠ '\\' := by
        rintro rfl
        exact hm (by decide)
      simp [hm, splitEntry, ih hcs, hs, hb, hbackslash]

theorem splitEntry_sign {c : Char} (h : c ∈ ['=', ':']) (rest : List Char) : splitEntry (c :: rest) = ([], trim rest) := by
  rcases List.mem_pair.mp h with rfl | rfl <;> simp [splitEntry, isSeparator]

theorem splitEntry_blank {c : Char} (h : c ∈ blanks) (rest : List Char) : splitEntry (c :: rest) = ([], afterBlank rest) := by
  simp only [blanks, List.mem_cons, List.not_mem_nil, or_false] at h
  rcases h with rfl | rfl | rfl <;> simp [splitEntry, isSeparator, isBlank]

theorem not_blank_of_sign {c : Char} (h : c ∈ ['=', ':']) : c ∉ blanks := by
  rcases List.mem_pair.mp h with rfl | rfl <;> decide

theorem splitEntry_gap {gap value : List Char} (h : Separates gap value) (hfirst : ∀ c ∈ value.head?, c ∉ blanks) :
    splitEntry (gap ++ value) = ([], value) := by
  cases h with
  | @sign before after _ c hbefore hc hafter =>
    have htrim : trim (after ++ value) = value := by rw [trim_append hafter, trim_of_first hfirst]
    cases before with
    | nil => rw [List.nil_append, List.cons_append, splitEntry_sign hc, htrim]
    | cons b bs =>
      obtain ⟨hb, hbs⟩ := List.cons_subset.mp hbefore
      have hstop : trim (bs ++ c :: (after ++ value)) = c :: (after ++ value) := by
        rw [trim_append hbs, trim_of_first]
        rintro d ⟨⟩
        exact not_blank_of_sign hc
      rw [List.cons_append, List.cons_append, List.append_assoc, List.cons_append, splitEntry_blank hb]
      simp [afterBlank, hstop, (isSeparator_iff c).mpr hc, htrim]
  | blank hne hgap hsign =>
    obtain ⟨b, bs, rfl⟩ := List.exists_cons_of_ne_nil hne
    obtain ⟨hb, hbs⟩ := List.cons_subset.mp hgap
    rw [List.cons_append, splitEntry_blank hb, afterBlank, trim_append hbs, trim_of_first hfirst]
    cases value with
    | nil => rfl
    | cons c cs =>
      have hc : isSeparator c = false := by
        rw [← Bool.not_eq_true, isSeparator_iff]
        exact hsign c rfl
      simp [hc]

theorem goesOn_concat (line : List Char) (c : Char) :
    goesOn (line ++ [c]) = if c = '\\' then !goesOn line else false := by
  by_cases hc : c = '\\'
  · rw [goesOn, goesOn, List.reverse_concat, List.takeWhile_cons_of_pos (by simp [hc]), List.length_cons, if_pos hc]
    grind
  · rw [goesOn, List.reverse_concat, List.takeWhile_cons_of_neg (by simp [hc]), if_neg hc]
    rfl

theorem goesOn_append {before : List Char} (h : goesOn before = false) (line : List Char) :
    goesOn (before ++ line) = goesOn line := by
  induction line using List.reverseRecOn with
  | nil => rw [List.append_nil, h]; rfl
  | append_singleton line c ih => rw [← List.append_assoc, goesOn_concat, goesOn_concat, ih]

theorem goesOn_of_last {line : List Char} (h : line.getLast? ≠ some '\\') : goesOn line = false := by
  rcases List.eq_nil_or_concat line with rfl | ⟨front, c, rfl⟩
  · rfl
  · rw [List.concat_eq_append] at h ⊢
    have hc : c ≠ '\\' := by simpa using h
    rw [goesOn_concat, if_neg hc]

theorem goesOn_even {stem : List Char} (h : stem.getLast? ≠ some '\\') (n : Nat) :
    goesOn (stem ++ List.replicate (2 * n) '\\') = false := by
  rw [goesOn_append (goesOn_of_last h)]
  simp [goesOn]

theorem Separates.ne_nil {gap value : List Char} (h : Separates gap value) : gap ≠ [] := by
  cases h with
  | sign => simp
  | blank hne => exact hne

theorem Separates.mem {gap value : List Char} (h : Separates gap value) {c : Char} (hc : c ∈ gap) :
    c ∈ blanks ∨ c ∈ ['=', ':'] := by
  cases h with
  | sign hbefore hsign hafter =>
    rcases List.mem_append.mp hc with hc | hc
    · exact Or.inl (hbefore hc)
    · rcases List.mem_cons.mp hc with rfl | hc
      · exact Or.inr hsign
      · exact Or.inl (hafter hc)
  | blank _ hgap => exact Or.inl (hgap hc)

theorem goesOn_entry (key : List Char) {gap value : List Char} (h : Separates gap value) (hvalue : IsValue value) :
    goesOn (key ++ gap ++ value) = false := by
  obtain ⟨stem, n, rfl, hstem⟩ := hvalue.even
  rw [← List.append_assoc]
  refine goesOn_even ?_ n
  -- the `\`s of a value of nothing else stand right behind the gap
  cases stem with
  | nil =>
    obtain ⟨c, hc⟩ := Option.ne_none_iff_exists'.mp (mt List.getLast?_eq_none_iff.mp h.ne_nil)
    rw [List.append_nil, List.getLast?_append, hc, Option.some_or]
    rintro ⟨⟩
    rcases h.mem (List.mem_of_getLast? hc) with hm | hm <;> exact absurd hm (by decide)
  | cons c cs =>
    obtain ⟨d, hd⟩ := Option.ne_none_iff_exists'.mp (mt List.getLast?_eq_none_iff.mp (List.cons_ne_nil c cs))
    rwa [List.getLast?_append, hd, Option.some_or, ← hd]

theorem not_mem_blanks {c : Char} (h : c ∈ ['\n', '\r']) {line : List Char} (hline : line ⊆ blanks) : c ∉ line := by
  intro hc
  have := hline hc
  rcases List.mem_pair.mp h with rfl | rfl <;> exact absurd this (by decide)

theorem not_mem_entry {c : Char} (h : c ∈ ['\n', '\r']) {lead key gap value : List Char} (hlead : lead ⊆ blanks)
    (hkey : IsKey key) (hgap : Separates gap value) (hvalue : IsValue value) :
    c ∉ lead ++ (writeKey key ++ gap ++ value) := by
  have hgap : c ∉ gap := by
    intro hc
    rcases List.mem_pair.mp h with rfl | rfl <;> rcases hgap.mem hc with hm | hm <;> exact absurd hm (by decide)
  have hlead := not_mem_blanks h hlead
  rcases List.mem_pair.mp h with rfl | rfl
  · simp [hlead, hgap, not_mem_writeKey (by decide) hkey.newline, hvalue.newline]
  · simp [hlead, hgap, not_mem_writeKey (by decide) hkey.carriage, hvalue.carriage]

theorem Line.newline {line : List Char} {entry : Option (String × String)} (h : Line line entry) : '\n' ∉ line := by
  cases h with
  | blank hline => exact not_mem_blanks (by decide) hline
  | @remark lead mark text hlead hmark htext =>
    have hm : '\n' ≠ mark := by
      rintro rfl
      exact absurd hmark (by decide)
    have hlead : '\n' ∉ lead := not_mem_blanks (by decide) hlead
    simp [hlead, hm, htext]
  | entry hlead hkey hgap hvalue => exact not_mem_entry (by decide) hlead hkey hgap hvalue

theorem Line.chomp {line : List Char} {entry : Option (String × String)} (h : Line line entry) :
    Line (Properties.chomp line) entry := by
  cases h with
  | blank hline =>
    rw [chomp_of_not_mem (not_mem_blanks (by decide) hline)]
    exact .blank hline
  | @remark lead mark text hlead hmark htext =>
    -- a remark may end in a `\r` of its own, and is a remark without it
    by_cases hlast : (lead ++ mark :: text).getLast? = some '\r'
    · have hne : text ≠ [] := by
        rintro rfl
        rw [List.getLast?_concat] at hlast
        obtain rfl := Option.some.inj hlast
        exact absurd hmark (by decide)
      obtain ⟨front, c, rfl⟩ := (List.eq_nil_or_concat text).resolve_left hne
      rw [List.concat_eq_append] at *
      have hfront : Properties.chomp (lead ++ mark :: (front ++ [c])) = lead ++ mark :: front := by
        rw [Properties.chomp, if_pos hlast, ← List.cons_append, ← List.append_assoc, List.dropLast_concat]
      rw [hfront]
      exact .remark hlead hmark fun hm => htext (List.mem_append_left [c] hm)
    · rw [Properties.chomp, if_neg hlast]
      exact .remark hlead hmark htext
  | entry hlead hkey hgap hvalue =>
    rw [chomp_of_not_mem (not_mem_entry (by decide) hlead hkey hgap hvalue)]
    exact .entry hlead hkey hgap hvalue

theorem Line.isRemark {line : List Char} (h : Line line none) : Properties.isRemark (trim line) = true := by
  cases h with
  | blank hline =>
    have htrim : trim line = [] := by
      have := trim_append hline []
      rwa [List.append_nil] at this
    rw [htrim]
    rfl
  | @remark lead mark text hlead hmark htext =>
    have htrim : trim (lead ++ mark :: text) = mark :: text := by
      rw [trim_append hlead, trim_of_first]
      rintro c ⟨⟩
      rcases List.mem_pair.mp hmark with rfl | rfl <;> decide
    rw [htrim]
    simpa [Properties.isRemark] using hmark

theorem join_remark {line : List Char} (h : isRemark (trim line) = true) (lines : List (List Char)) :
    join none (line :: lines) = join none lines := by
  simp [join, h]

theorem join_whole {line : List Char} (hr : isRemark (trim line) = false) (hg : goesOn (trim line) = false)
    (lines : List (List Char)) : join none (line :: lines) = trim line :: join none lines := by
  simp [join, hr, hg]

theorem entries_cons {line key value : List Char} (h : splitEntry line = (key, value)) (hkey : key ≠ [])
    (lines : List (List Char)) :
    entries (line :: lines) = (String.ofList key, String.ofList value) :: entries lines := by
  simp [entries, h, hkey]

theorem entries_join {line : List Char} {entry : Option (String × String)} (h : Line line entry) (lines : List (List Char)) :
    entries (join none (line :: lines)) = entry.toList ++ entries (join none lines) := by
  cases h with
  | blank hline =>
    rw [join_remark (Line.blank hline).isRemark]
    rfl
  | remark hlead hmark htext =>
    rw [join_remark (Line.remark hlead hmark htext).isRemark]
    rfl
  | @entry lead key gap value hlead hkey hgap hvalue =>
    have hsplit : splitEntry (writeKey key ++ gap ++ value) = (key, value) := by
      rw [List.append_assoc, splitEntry_writeKey hkey.formFeed, splitEntry_gap hgap hvalue.first, List.append_nil]
    have hwhole := goesOn_entry (writeKey key) hgap hvalue
    obtain ⟨c, cs, hwritten, hblank, hmark⟩ := writeKey_first hkey
    have htrim : trim (lead ++ (writeKey key ++ gap ++ value)) = writeKey key ++ gap ++ value := by
      rw [trim_append hlead, trim_of_first]
      rw [hwritten]
      rintro d ⟨⟩
      exact hblank
    have hremark : isRemark (writeKey key ++ gap ++ value) = false := by
      rw [hwritten]
      simpa [isRemark] using hmark
    rw [join_whole (by rw [htrim, hremark]) (by rw [htrim, hwhole]), htrim, entries_cons hsplit hkey.nonempty]
    rfl

theorem entries_document {text : List Char} {pairs : List (String × String)} (h : Document text pairs) :
    entries (logicalLines text) = pairs := by
  induction h with
  | nil => rfl
  | @cons line entry ending rest pairs hline hending _ ih =>
    have hlines : ∃ read, Line read entry ∧ physicalLines (line ++ ending ++ rest) = read :: physicalLines rest := by
      rcases List.mem_pair.mp hending with rfl | rfl
      · refine ⟨chomp line, hline.chomp, ?_⟩
        rw [List.append_assoc]
        exact physicalLines_append hline.newline rest
      · refine ⟨line, hline, ?_⟩
        have hcarriage : '\n' ∉ line ++ ['\r'] := by simp [hline.newline]
        have := physicalLines_append hcarriage rest
        rw [chomp_concat] at this
        simpa using this
    obtain ⟨read, hread, hphysical⟩ := hlines
    rw [logicalLines, hphysical, entries_join hread]
    rw [logicalLines] at ih
    rw [ih]

/-- A text of blank lines, remarks and entries gives each key the value of the last entry with it, and no
other key a value. -/
theorem parse_document {text : String} {pairs : List (String × String)} (h : Document text.toList pairs) (key : String) :
    (parse text)[key]? = pairs.reverse.lookup key := by
  rw [parse, entries_document h, Dictionary.getElem?_ofPairs]

def notedText : String := "#\\\n\\#\\\\ = =v\\\\\r\n\t\\#\\\\\tw\n"

theorem notedText_document : Document notedText.toList [("#\\", "=v\\\\"), ("#\\", "w")] := by
  have hkey : IsKey ['#', '\\'] := ⟨by decide, by decide, by decide, by decide⟩
  have hfirst : IsValue ['=', 'v', '\\', '\\'] :=
    ⟨by decide, by decide, by simp [blanks], ['=', 'v'], 1, by decide, by decide⟩
  have hlast : IsValue ['w'] := ⟨by decide, by decide, by simp [blanks], ['w'], 0, by decide, by decide⟩
  have hspace : [' '] ⊆ blanks := by simp [blanks]
  have htab : ['\t'] ⊆ blanks := by simp [blanks]
  have hsign : Separates ([' '] ++ '=' :: [' ']) ['=', 'v', '\\', '\\'] := .sign hspace (by decide) hspace
  have hblank : Separates ['\t'] ['w'] := .blank (by decide) htab (by simp)
  have htext : notedText.toList = ([] ++ '#' :: ['\\']) ++ ['\n'] ++
      (([] ++ (writeKey ['#', '\\'] ++ [' ', '=', ' '] ++ ['=', 'v', '\\', '\\'])) ++ ['\r', '\n'] ++
        ((['\t'] ++ (writeKey ['#', '\\'] ++ ['\t'] ++ ['w'])) ++ ['\n'] ++ [])) := by decide
  rw [htext]
  refine .cons (.remark (List.nil_subset _) (by decide) (by decide)) (by decide) ?_
  refine .cons (.entry (List.nil_subset _) hkey hsign hfirst) (by decide) ?_
  exact .cons (.entry htab hkey hblank hlast) (by decide) .nil

theorem notedText_last_value : Document notedText.toList [("#\\", "=v\\\\"), ("#\\", "w")] ∧
    (parse notedText)["#\\"]? = some "w" := by
  refine ⟨notedText_document, ?_⟩
  rw [parse_document notedText_document]
  decide

end Gloss.Properties
