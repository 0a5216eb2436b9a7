import Gloss.Config.Reader
import Gloss.Proofs.Json.Unambiguous
import Gloss.Proofs.Json.Written

namespace Gloss.Config

open Json.Grammar

/-- In a text from the start of a member on, some member has the name of a field, however it is spelled, and the value
`null`. -/
inductive NullsField : List Char → Prop
  | here (f : Field) {cs name after colon rest} : Blanks cs ('"' :: name) → Spells name f.name.toList after →
      Blanks after (':' :: colon) → Blanks colon ('n' :: 'u' :: 'l' :: 'l' :: rest) → NullsField cs
  | later {cs stop next} : Member cs stop → Blanks stop (',' :: next) → NullsField next → NullsField cs

theorem Field.name_of_ofName? {key : String} {f : Field} (h : Field.ofName? key = some f) : f.name = key := by
  simpa using List.find?_some h

theorem Field.ofName?_name (f : Field) : Field.ofName? f.name = some f := by
  cases f <;> decide

namespace Reading

open Json Json.Reader

variable {α : Type} {c c' : Cursor}

theorem gives_refuse (expected : String) : Gives (fun _ : α => False) (refuse expected) := by
  refine gives_after _ fun next => ?_
  split
  · exact gives_after _ fun _ => gives_after _ fun _ => gives_fail _ _
  · exact gives_after _ fun _ => gives_after _ fun _ => gives_fail _ _
  · exact gives_after _ fun _ => gives_after _ fun _ => gives_fail _ _
  · exact gives_after _ fun _ => gives_after _ fun _ => gives_fail _ _
  · exact gives_after _ fun _ => gives_fail _ _
  · exact gives_fail _ _
  · exact gives_fail _ _
  · split
    · exact gives_after _ fun _ => gives_fail _ _
    · exact gives_failNext _ _
  · exact gives_failNext _ _

theorem string_ok {s : String} (h : string c = .ok (s, c')) : Item c.rest c'.rest := by
  obtain ⟨next, c₁, hread, hnext⟩ := bind_eq_ok.mp h
  obtain ⟨hblanks, hhead⟩ := blanks_ok hread
  split at hnext
  · cases hnext
  · obtain ⟨cs, hcs, hspells⟩ := name_ok hnext hhead
    exact ⟨c₁.rest, hblanks, hcs ▸ .text hspells.quoted⟩
  · exact (gives_refuse _ _ _ _ hnext).elim

theorem strings_ok {bound : Nat} {ss : List String} (h : strings bound c = .ok (ss, c')) : Item c.rest c'.rest := by
  obtain ⟨next, c₁, hread, hnext⟩ := bind_eq_ok.mp h
  obtain ⟨hblanks, hhead⟩ := blanks_ok hread
  split at hnext
  · cases hnext
  · obtain ⟨_, c₂, hskip, hlist⟩ := bind_eq_ok.mp hnext
    exact ⟨c₁.rest, hblanks, skip_ok hskip hhead ▸ list_ok string_ok hlist⟩
  · exact (gives_refuse _ _ _ _ hnext).elim

theorem field_ok {bound : Nat} {patch patch' : Patch} {f : Field}
    (h : field .config bound patch f c = .ok (patch', c')) : Item c.rest c'.rest := by
  have hsome : ∀ {α : Type} {reader : Reader α}, (∀ {x c'}, reader c = .ok (x, c') → Item c.rest c'.rest) →
      ∀ {x c'}, unlessNull .config reader c = .ok (x, c') → Item c.rest c'.rest := by
    intro α reader hreader x c' hx
    obtain ⟨y, c₁, hy, hrest⟩ := bind_eq_ok.mp hx
    cases hrest
    exact hreader hy
  cases f <;> obtain ⟨x, c₁, hx, hrest⟩ := bind_eq_ok.mp h <;> cases hrest
  case selectors | ignores => exact hsome strings_ok hx
  case suffix | function => exact hsome string_ok hx

theorem refuse_null (expected : String) (h : c.rest.head? = some 'n') :
    (refuse expected : Reader α) c = (do skip; word ['u', 'l', 'l']; fail (.wrongType .null expected)) c := by
  rw [refuse, bind_of_ok rfl, h]
  rfl

theorem unlessNull_eq {next : Option Char → Reader α} {expected : String} (hrefuse : next (some 'n') = refuse expected)
    (h : ∀ rest, ¬ Blanks c.rest ('n' :: 'u' :: 'l' :: 'l' :: rest)) :
    unlessNull .config (blanks >>= next) c = unlessNull .patch (blanks >>= next) c := by
  obtain ⟨head, c₁, hread⟩ : ∃ head c₁, blanks c = .ok (head, c₁) := ⟨_, _, rfl⟩
  obtain ⟨hblanks, hhead⟩ := blanks_ok hread
  simp only [unlessNull, bind_assoc, bind_of_ok hread]
  by_cases hnull : head = some 'n'
  · -- both step over the word, and only then one of them refuses it
    subst hnull
    have hrefused := bind_congr (refuse_null (α := α) expected hhead.symm)
      (fun x c' _ => rfl (a := (pure (some x) : Reader (Option α)) c'))
    rw [if_pos rfl, hrefuse, hrefused]
    simp only [bind_assoc]
    refine bind_congr rfl fun _ c₂ hskip => ?_
    cases hword : word ['u', 'l', 'l'] c₂ with
    | error fault => rw [bind_of_error hword, bind_of_error hword]
    | ok found =>
      rw [skip_ok hskip hhead, word_ok hword] at hblanks
      exact absurd hblanks (h _)
  · rw [if_neg hnull, bind_of_ok (blanks_blanks hread)]

theorem field_eq {f : Field} {bound : Nat} {patch : Patch}
    (h : ∀ rest, ¬ Blanks c.rest ('n' :: 'u' :: 'l' :: 'l' :: rest)) :
    field .config bound patch f c = field .patch bound patch f c := by
  cases f <;> exact bind_congr (unlessNull_eq rfl h) fun _ _ _ => rfl

theorem members_eq {first : Bool} {seen : List Field} {patch : Patch} {bound count : Nat}
    (h : ∀ next, Next first c.rest next → ¬ NullsField next) (hbound : c.rest.length < bound) :
    members .config bound first seen patch count c = members .patch bound first seen patch count c := by
  -- both are at the same place member by member, for what each has read is a member of the grammar
  induction count generalizing c first seen patch with
  | zero => rfl
  | succ count ih =>
    simp only [members]
    refine bind_congr rfl fun more c₁ hmore => ?_
    cases more with
    | false => rw [if_neg Bool.false_ne_true, if_neg Bool.false_ne_true]
    | true =>
      obtain ⟨next, hbegin, hbefore, hquote⟩ := hasMember_ok hmore
      have hnext := h next hbegin
      have hlength := hbegin.length_le.trans_lt hbound
      refine bind_congr rfl fun key c₂ hkey => ?_
      obtain ⟨name, hname, hspells⟩ := name_ok hkey hquote
      rw [hname] at hbefore
      have hnamed : ∀ {cs}, Blanks c₂.rest (':' :: cs) → Name next cs := fun hcolon =>
        ⟨name, c₂.rest, hbefore, hspells.quoted, hcolon⟩
      have hstep : ∀ {c₃ c₄ : Cursor} {seen : List Field} {patch : Patch}, Blanks c₂.rest (':' :: c₃.rest) →
          Item c₃.rest c₄.rest →
          members .config bound false seen patch count c₄ = members .patch bound false seen patch count c₄ := by
        intro c₃ c₄ seen patch hcolon hitem
        have hmember : Member next c₄.rest := .mk (hnamed hcolon) hitem.choose_spec.1 hitem.choose_spec.2
        exact ih (fun next' hcomma hlater => hnext (.later hmember hcomma hlater)) (hmember.length_lt.trans hlength)
      cases hfield : Field.ofName? key with
      | none =>
        refine bind_congr rfl fun _ c₃ hcolon => bind_congr rfl fun _ c₄ hpass => ?_
        have hcolon := colon_ok hcolon
        exact hstep hcolon (pass_ok hpass ((hnamed hcolon).length_lt.trans hlength))
      | some f =>
        simp only
        split_ifs with hseen
        · rfl
        · refine bind_congr rfl fun _ c₃ hcolon => ?_
          have hcolon := colon_ok hcolon
          have hnull : ∀ rest, ¬ Blanks c₃.rest ('n' :: 'u' :: 'l' :: 'l' :: rest) := fun rest hrest =>
            hnext (.here f hbefore (Field.name_of_ofName? hfield ▸ hspells) hcolon hrest)
          exact bind_congr (field_eq hnull) fun _ c₄ hread => hstep hcolon (field_ok hread)

theorem settings_eq {rest : List Char} {bound : Nat} (hopen : Blanks c.rest ('\x7b' :: rest)) (h : ¬ NullsField rest)
    (hbound : c.rest.length < bound) : settings .config bound c = settings .patch bound c := by
  have hread := blanks_run hopen (fun d hd => Option.some.inj hd ▸ rfl) c.offset
  have hlength := hopen.length_le
  rw [List.length_cons] at hlength
  simp only [settings]
  rw [bind_of_ok hread, bind_of_ok hread]
  refine bind_congr rfl fun _ c₁ hskip => ?_
  obtain rfl : rest = c₁.rest := List.cons.inj (skip_ok hskip rfl) |>.2
  exact bind_congr (members_eq (fun next hnext => hnext ▸ h) (by omega)) fun _ _ _ => rfl

theorem reads_string {cs after rest : List Char} {s : String} (hquote : Blanks cs ('"' :: after))
    (hspells : Spells after s.toList rest) : Reads string cs s rest :=
  (reads_blanks hquote rfl).bind (reads_name hspells)

theorem reads_strings {cs inside rest : List Char} {ss : List String} {bound : Nat} (hopen : Blanks cs ('[' :: inside))
    (h : Texts true inside ss rest) (hbound : ss.length < bound) : Reads (strings bound) cs ss rest :=
  (reads_blanks hopen rfl).bind
    ((reads_skip _ _).bind (reads_list (fun hspells => reads_string (.refl _) hspells) h hbound))

theorem reads_member {f : Field} {first : Bool} {cs next value stop rest : List Char} {seen : List Field}
    {patch patch' final : Patch} {bound count : Nat} (hseen : f ∉ seen) (hnext : Next first cs next)
    (hname : Blanks next ((Text.render f.name ++ ": ").toList ++ value))
    (hvalue : Reads (field .config bound patch f) (' ' :: value) patch' stop)
    (hrest : Reads (members .config bound false (f :: seen) patch' count) stop final rest) :
    Reads (members .config bound first seen patch (count + 1)) cs final rest := by
  rw [String.toList_append, List.append_assoc, Text.toList_render] at hname
  simp only [members]
  refine (reads_hasMember hnext hname).bind ?_
  rw [if_pos rfl]
  refine (reads_name (Text.spells_encode ..)).bind ?_
  rw [Field.ofName?_name]
  simp only [if_neg hseen]
  exact (reads_colon (.refl _)).bind (hvalue.bind hrest)

end Reading

section Written

open Json Json.Reader Reading

variable (config : Config)

def value : Field → Json
  | .selectors => .texts config.selectors
  | .suffix => .text config.suffix
  | .function => .text config.function
  | .ignores => .texts config.ignores

def line (f : Field) : String := Text.render f.name ++ ": " ++ (config.value f).pretty 1

def copy (patch : Patch) : Field → Patch
  | .selectors => { patch with selectors := config.selectors }
  | .suffix => { patch with suffix := config.suffix }
  | .function => { patch with function := config.function }
  | .ignores => { patch with ignores := config.ignores }

theorem reads_field {bound : Nat} (hselectors : config.selectors.length < bound)
    (hignores : config.ignores.length < bound) (patch : Patch) (f : Field) (rest : List Char) :
    Reads (field .config bound patch f) (' ' :: (((config.value f).pretty 1).toList ++ rest)) (config.copy patch f)
      rest := by
  have hblank (cs : List Char) : Blanks (' ' :: cs) cs := ⟨[' '], rfl, by simp [isBlank]⟩
  have htext (s : String) : Reads string (' ' :: (((Json.text s).pretty 1).toList ++ rest)) s rest := by
    rw [pretty_text, Text.toList_render]
    exact reads_string (hblank _) (Text.spells_encode ..)
  have htexts {ss : List String} (hss : ss.length < bound) :
      Reads (strings bound) (' ' :: (((Json.texts ss).pretty 1).toList ++ rest)) ss rest := by
    obtain ⟨inside, hinside, hlist⟩ := texts_of_pretty 1 ss rest
    rw [hinside]
    exact reads_strings (hblank _) hlist hss
  have hsome {α : Type} {reader : Reader α} {cs : List Char} {x : α} (h : Reads reader cs x rest) :
      Reads (unlessNull .config reader) cs (some x) rest := h.bind (reads_pure _ _)
  cases f with
  | selectors => exact Reads.bind (hsome (htexts hselectors)) (reads_pure _ _)
  | suffix => exact Reads.bind (hsome (htext _)) (reads_pure _ _)
  | function => exact Reads.bind (hsome (htext _)) (reads_pure _ _)
  | ignores => exact Reads.bind (hsome (htexts hignores)) (reads_pure _ _)

theorem reads_lines {close rest : List Char} {bound : Nat} (hselectors : config.selectors.length < bound)
    (hignores : config.ignores.length < bound) (hclose : Blanks close ('\x7d' :: rest)) {f : Field} {fs : List Field}
    {first : Bool} {seen : List Field} {patch : Patch} {cs next : List Char} {count : Nat}
    (hdistinct : (f :: fs).Nodup) (hseen : ∀ g ∈ f :: fs, g ∉ seen) (hcount : fs.length + 1 < count)
    (hnext : Next first cs next)
    (hlines : Blanks next ((("," ++ lineBreak 1).intercalate ((f :: fs).map config.line)).toList ++ close)) :
    Reads (Reading.members .config bound first seen patch count) cs ((f :: fs).foldl config.copy patch) ('\x7d' :: rest) := by
  induction fs generalizing f first seen patch cs next count with
  | nil =>
    obtain ⟨count, rfl⟩ : ∃ n, count = n + 2 := ⟨count - 2, by simp at hcount; omega⟩
    have hline : Blanks next ((Text.render f.name ++ ": ").toList ++ (((config.value f).pretty 1).toList ++ close)) := by
      simpa [line] using hlines
    refine reads_member (hseen f (by simp)) hnext hline (reads_field config hselectors hignores patch f close) ?_
    simp only [Reading.members]
    exact (reads_lastMember _ hclose).bind (reads_pure _ _)
  | cons g fs ih =>
    obtain ⟨count, rfl⟩ : ∃ n, count = n + 1 := ⟨count - 1, by omega⟩
    obtain ⟨hf, hdistinct⟩ := List.nodup_cons.mp hdistinct
    have hunseen : ∀ e ∈ g :: fs, e ∉ f :: seen := fun e he hmem => by
      rcases List.mem_cons.mp hmem with rfl | hmem
      · exact hf he
      · exact hseen e (List.mem_cons_of_mem f he) hmem
    refine reads_member (hseen f (by simp)) hnext ?_ (reads_field config hselectors hignores patch f _)
      (ih hdistinct hunseen (Nat.lt_of_succ_lt_succ hcount) (next_comma _) (blanks_lineBreak 1 _))
    have hcomma : ",".toList = [','] := rfl
    simpa only [List.map_cons, String.intercalate_cons_cons, line, String.toList_append, List.append_assoc, hcomma,
      List.cons_append, List.nil_append] using hlines

theorem prettyMembers_lines (fs : List Field) :
    prettyMembers 1 (fs.map fun f => (f.name, config.value f)) = fs.map config.line := by
  induction fs with
  | nil => rfl
  | cons f fs ih => simp [prettyMembers, ih, line]

theorem toList_render : config.render.toList = '\x7b' :: ((lineBreak 1).toList ++
    ((("," ++ lineBreak 1).intercalate (Field.all.map config.line)).toList ++ ((lineBreak 0).toList ++ ['\x7d']))) := by
  have hjson : config.toJson = .object (Field.all.map fun f => (f.name, config.value f)) := rfl
  rw [render, hjson, pretty, prettyMembers_lines, block, if_neg (by simp [Field.all])]
  simp

theorem reads_render {bound : Nat} (hselectors : config.selectors.length < bound)
    (hignores : config.ignores.length < bound) (hfields : 4 < bound) :
    Reads (Reading.settings .config bound) config.render.toList (Field.all.foldl config.copy {}) [] := by
  rw [toList_render]
  refine (reads_blanks (.refl _) rfl).bind ((reads_skip '\x7b' _).bind ?_)
  refine Reads.bind ?_ ((reads_closeObject (.refl _)).bind (reads_pure _ _))
  exact reads_lines config hselectors hignores (blanks_lineBreak 0 ['\x7d']) (by decide) (by simp) hfields
    (next_first _) (blanks_lineBreak 1 _)

theorem length_le_pretty (level : Nat) (ss : List String) : ss.length ≤ ((texts ss).pretty level).toList.length := by
  obtain ⟨inside, hinside, htexts⟩ := texts_of_pretty level ss []
  rw [List.append_nil] at hinside
  rw [hinside]
  exact htexts.length_le.trans (Nat.le_succ _)

theorem length_lt_render (f : Field) : ((config.value f).pretty 1).toList.length < config.render.toList.length := by
  rw [toList_render]
  cases f <;> simp [Field.all, line, String.intercalate_cons_cons] <;> omega

theorem length_fields_lt_render : Field.all.length < config.render.toList.length := by
  rw [toList_render]
  simp [Field.all, lineBreak]

theorem read_render : read config.render = .ok config := by
  have hselectors := (length_le_pretty 1 config.selectors).trans_lt (config.length_lt_render .selectors)
  have hignores := (length_le_pretty 1 config.ignores).trans_lt (config.length_lt_render .ignores)
  have hread := config.reads_render (Nat.lt_succ_of_lt hselectors) (Nat.lt_succ_of_lt hignores)
    (Nat.lt_succ_of_lt config.length_fields_lt_render)
  rw [read, settings, run_of_reads hread]
  rfl

end Written

/-- Full settings and updates have one format: an object of which no field is `null` is read as both or as neither, and
what it says as an update, with defaults for the rest, is what it says as settings. Settings that are written are read
again as they were, whatever the characters of their texts. -/
theorem formats_agree :
    (∀ text cs, Blanks text.toList ('\x7b' :: cs) → ¬ NullsField cs →
      read text = (Patch.read text).map (Config.merged {})) ∧
    ∀ config : Config, read config.render = .ok config := by
  refine ⟨fun text cs hopen hnull => ?_, read_render⟩
  rw [read, Patch.read, settings, settings, Json.Reader.run, Json.Reader.run, Json.Reader.whole, Json.Reader.whole]
  rw [Json.Reader.bind_congr (Reading.settings_eq hopen hnull (by simp)) fun _ _ _ => rfl]

theorem not_nullsField_unknown : ¬ NullsField ['"', 'x', '"', ':', 'n', 'u', 'l', 'l', '\x7d'] := by
  rintro (⟨f, hname, hspells, _, _⟩ | ⟨⟨⟨name, after, hquote, hquoted, hcolon⟩, hstart, hvalue⟩, hcomma, _⟩)
  · obtain rfl := List.cons.inj ((blanks_cons_iff rfl).mp hname) |>.2
    have hhead := spells_head hspells (by simp) (by simp)
    cases f <;> simp [Field.name] at hhead
  · obtain rfl := List.cons.inj ((blanks_cons_iff rfl).mp hquote) |>.2
    obtain rfl := quoted_quote_iff.mp ((quoted_cons_iff (by simp) (by simp) (by decide)).mp hquoted)
    obtain rfl := List.cons.inj ((blanks_cons_iff rfl).mp hcolon) |>.2
    obtain rfl := (blanks_cons_iff rfl).mp hstart
    obtain rfl : _ = ['\x7d'] := by simpa using (value_null_iff.mp hvalue).symm
    simpa using (blanks_cons_iff rfl).mp hcomma

theorem unknown_null_read :
    Blanks "\x7b\"x\":null\x7d".toList ('\x7b' :: "\"x\":null\x7d".toList) ∧ ¬ NullsField "\"x\":null\x7d".toList ∧
      read "\x7b\"x\":null\x7d" = (Patch.read "\x7b\"x\":null\x7d").map (Config.merged {}) ∧
      read (render { function := "\"\n" }) = .ok { function := "\"\n" } := by
  have htext : "\x7b\"x\":null\x7d".toList = '\x7b' :: "\"x\":null\x7d".toList := by decide
  have hopen : Blanks "\x7b\"x\":null\x7d".toList ('\x7b' :: "\"x\":null\x7d".toList) := htext ▸ .refl _
  have hmembers : "\"x\":null\x7d".toList = ['"', 'x', '"', ':', 'n', 'u', 'l', 'l', '\x7d'] := by decide
  have hnull : ¬ NullsField "\"x\":null\x7d".toList := hmembers ▸ not_nullsField_unknown
  exact ⟨hopen, hnull, formats_agree.1 _ _ hopen hnull, formats_agree.2 _⟩

end Gloss.Config
