import DocPages.Settings.Read
import Mathlib.Data.List.Forall2

/-!
# Settings in the value of a document

Settings are used as a whole or not at all.  `WellShaped` says which maps are used, and `ReadFrom`
what every setting then is; of any other map nothing is used, and one warning is given.  A value that
is no map has no settings, and nothing is said of it.  All this holds whichever texts are patterns:
the reader of patterns is any function that gives a pattern, or says that there is none.

The template and the scripts of handlers are taken as they are, so that values of any kind get
through there.  `wellTyped_load_iff` says that this is the only way in which settings are not of the
kinds that are asked for.
-/

namespace DocPages.Settings

/-! ### Readings that decide -/

/-- The reading decides whether `P` holds: if it does, what is read is as `Q` says, and else the
reading fails.  If the fault is one that is not put up with, `F` holds. -/
inductive Decides {α : Type} (F P : Prop) (Q : α → Prop) : Except SettingsError α → Prop where
  | accepted {a : α} : P → Q a → Decides F P Q (.ok a)
  | refused {e : SettingsError} : ¬ P → (e.isFatal → F) → Decides F P Q (.error e)

namespace Decides

variable {α β : Type} {F P P' : Prop} {Q Q' : α → Prop} {r : Except SettingsError α}

theorem congr (h : Decides F P Q r) (hP : P ↔ P') (hQ : ∀ a, Q a → Q' a) :
  Decides F P' Q' r
  := by
  cases h with
  | accepted hp hq => exact .accepted (hP.1 hp) (hQ _ hq)
  | refused hp hF => exact .refused (fun hp' => hp (hP.2 hp')) hF

/-- One reading after the other decides whether both conditions hold. -/
theorem bind {R : β → Prop} {f : α → Except SettingsError β} (h : Decides F P Q r)
    (hf : ∀ a, Q a → Decides F P' R (f a)) :
  Decides F (P ∧ P') R (r >>= f)
  := by
  cases h with
  | accepted hp hq => exact (hf _ hq).congr (and_iff_right hp).symm fun _ hR => hR
  | refused hp hF => exact .refused (fun hpp => hp hpp.1) hF

/-- What is made of the result of a reading does not matter. -/
theorem bind_pure {R : β → Prop} {g : α → β} (h : Decides F P Q r) (hg : ∀ a, Q a → R (g a)) :
  Decides F P R (r >>= fun a => pure (g a))
  := by
  cases h with
  | accepted hp hq => exact .accepted hp (hg _ hq)
  | refused hp hF => exact .refused hp hF

/-- Reading each value of a list decides whether the condition holds of all. -/
theorem mapM {P : α → Prop} {R : α → β → Prop} {f : α → Except SettingsError β} {xs : List α}
    (h : ∀ x ∈ xs, Decides F (P x) (R x) (f x)) :
  Decides F (∀ x ∈ xs, P x) (List.Forall₂ R xs) (xs.mapM f)
  := by
  induction xs with
  | nil => exact .accepted (fun x hx => absurd hx List.not_mem_nil) .nil
  | cons x xs ih =>
    rw [List.forall_mem_cons] at h
    have hrest : ∀ y, R x y → Decides F (∀ x ∈ xs, P x) (List.Forall₂ R (x :: xs))
        (xs.mapM f >>= fun ys => pure (y :: ys)) := by
      intro y hy
      apply (ih h.2).bind_pure
      intro ys hys
      exact .cons hy hys
    rw [List.mapM_cons]
    exact (h.1.bind hrest).congr List.forall_mem_cons.symm fun _ hR => hR

end Decides

variable {F : Prop} {compile : PatternReader}

/-! ### Lists of texts -/

/-- There is nothing, or a list. -/
def IsListed (o : Option Value) : Prop :=
  ∀ w, o = some w → w = .null ∨ ∃ ws, w = .list ws

/-- The texts that are read: those of the values in a list, and none of nothing. -/
inductive ReadsTexts : Option Value → List String → Prop where
  | absent : ReadsTexts none []
  | null : ReadsTexts (some .null) []
  | list (ws : List Value) : ReadsTexts (some (.list ws)) (ws.map Value.display)

theorem decides_textList (o : Option Value) :
  Decides F (IsListed o) (ReadsTexts o) (textList o)
  := by
  cases o with
  | none => exact .accepted nofun .absent
  | some w =>
    cases w with
    | null => exact .accepted (fun w hw => .inl (Option.some.inj hw).symm) .null
    | list ws => exact .accepted (fun w hw => .inr ⟨ws, (Option.some.inj hw).symm⟩) (.list ws)
    | _ =>
      refine .refused (fun h => ?_) nofun
      obtain hw | ⟨ws, hw⟩ := h _ rfl
      · cases hw
      · cases hw

/-! ### Values that hold -/

/-- The value is of this kind if it holds. -/
def GivenAs (P : Value → Prop) (o : Option Value) : Prop :=
  ∀ w, o = some w → w.holds → P w

/-- What is read from a value that holds is as `R` says, and the default of any other value. -/
inductive ReadsGiven {α : Type} (R : Value → α → Prop) (default : α) : Option Value → α → Prop where
  | absent : ReadsGiven R default none default
  | empty {w : Value} : w.holds = false → ReadsGiven R default (some w) default
  | given {w : Value} {a : α} : w.holds → R w a → ReadsGiven R default (some w) a

theorem decides_given {α : Type} {P : Value → Prop} {R : Value → α → Prop} {default : α}
    (read : Option Value → Except SettingsError α) {readGiven : Value → Except SettingsError α}
    {o : Option Value} (habsent : read none = .ok default)
    (hsome : ∀ w : Value, read (some w) = if !w.holds then .ok default else readGiven w)
    (hgiven : ∀ w : Value, o = some w → Decides F (P w) (R w) (readGiven w)) :
  Decides F (GivenAs P o) (ReadsGiven R default o) (read o)
  := by
  cases o with
  | none =>
    rw [habsent]
    exact .accepted nofun .absent
  | some w =>
    rw [hsome]
    cases hw : w.holds with
    | false => exact .accepted (by simp [GivenAs, hw]) (.empty hw)
    | true => exact (hgiven w rfl).congr (by simp [GivenAs, hw]) fun a ha => .given hw ha

/-! ### Each setting -/

/-- A map of any entries. -/
def IsMap (w : Value) : Prop :=
  ∃ es, w = .map es

/-- A text. -/
def IsText (w : Value) : Prop :=
  ∃ s, w = .text s

/-- A map with a pattern that can be read. -/
def IsHandler (compile : PatternReader) (w : Value) : Prop :=
  IsMap w ∧ ∃ s p, w.get? "pattern" = some (.text s) ∧ compile s = .ok p

/-- A list of maps with patterns that can be read. -/
def IsHandlerList (compile : PatternReader) (w : Value) : Prop :=
  ∃ ws, w = .list ws ∧ ∀ u ∈ ws, IsHandler compile u

/-- The handler in a map: its pattern, and the script if there is one. -/
structure ReadsHandler (compile : PatternReader) (w : Value) (h : Handler) : Prop where
  pattern : ∃ s, w.get? "pattern" = some (.text s) ∧ compile s = .ok h.pattern
  test : h.test = (w.get? "test").getD (.text "")

/-- The handlers in the maps of a list, in their order. -/
def ReadsHandlers (compile : PatternReader) (w : Value) (hs : List Handler) : Prop :=
  ∃ ws, w = .list ws ∧ List.Forall₂ (ReadsHandler compile) ws hs

/-- The path that a text names seen from the directory of the settings. -/
def ReadsDirectory (root : Path) (w : Value) (dir : Option String) : Prop :=
  ∃ s, w = .text s ∧ dir = some (root.join (Path.parse s)).text

/-- The entries of a map. -/
def ReadsOptions (w : Value) (es : List (Key × Value)) : Prop :=
  w = .map es

theorem decides_options (o : Option Value) :
  Decides F (GivenAs IsMap o) (ReadsGiven ReadsOptions [] o) (options o)
  := by
  refine decides_given options rfl (fun w => rfl) ?_
  intro w _
  cases w with
  | map es => exact .accepted ⟨es, rfl⟩ rfl
  | _ => exact .refused nofun nofun

theorem decides_directory (root : Path) (o : Option Value) :
  Decides F (GivenAs IsText o) (ReadsGiven (ReadsDirectory root) none o) (directory root o)
  := by
  refine decides_given (directory root) rfl (fun w => rfl) ?_
  intro w _
  cases w with
  | text s => exact .accepted ⟨s, rfl⟩ ⟨s, rfl, rfl⟩
  | _ => exact .refused nofun nofun

theorem decides_handler {w : Value}
    (hF : ∀ s, w.get? "pattern" = some (.text s) →
      compile s = .error .tooManyRepeats → F) :
  Decides F (IsHandler compile w) (ReadsHandler compile w) (handler compile w)
  := by
  cases w with
  | map es =>
    rw [handler]
    split
    · rename_i hpattern
      refine .refused ?_ nofun
      rintro ⟨-, s, p, hs, -⟩
      rw [hpattern] at hs
      cases hs
    · rename_i s hpattern
      cases hparse : compile s with
      | ok p => exact .accepted ⟨⟨es, rfl⟩, s, p, hpattern, hparse⟩ ⟨⟨s, hpattern, hparse⟩, rfl⟩
      | error e =>
        have hnot : ¬ IsHandler compile (.map es) := by
          rintro ⟨-, s', p, hs, hp⟩
          rw [hpattern] at hs
          cases hs
          rw [hparse] at hp
          cases hp
        cases e with
        | malformed => exact .refused hnot nofun
        | tooManyRepeats => exact .refused hnot fun _ => hF s hpattern hparse
    · rename_i u htext hpattern
      refine .refused ?_ nofun
      rintro ⟨-, s, p, hs, -⟩
      rw [hpattern] at hs
      exact htext s (Option.some.inj hs)
  | _ => exact .refused (fun h => nomatch h.1) nofun

theorem decides_handlerList {o : Option Value}
    (hF : ∀ ws, o = some (.list ws) → ∀ w ∈ ws, ∀ s, w.get? "pattern" = some (.text s) →
      compile s = .error .tooManyRepeats → F) :
  Decides F (GivenAs (IsHandlerList compile) o) (ReadsGiven (ReadsHandlers compile) [] o)
    (handlerList compile o)
  := by
  refine decides_given (handlerList compile) rfl (fun w => rfl) ?_
  intro w hw
  cases w with
  | list ws =>
    have hall : Decides F (∀ u ∈ ws, IsHandler compile u) (List.Forall₂ (ReadsHandler compile) ws)
        (ws.mapM (handler compile)) := .mapM fun u hu => decides_handler (hF ws hw u hu)
    apply hall.congr
    · constructor
      · intro h
        exact ⟨ws, rfl, h⟩
      · rintro ⟨_, ⟨rfl⟩, h⟩
        exact h
    · intro hs h
      exact ⟨ws, rfl, h⟩
  | _ => exact .refused nofun nofun

/-! ### All settings of a map -/

/-- The value of a document is of the shape that is asked for. -/
structure WellShaped (compile : PatternReader) (v : Value) : Prop where
  lists : ∀ key ∈ ["namespaces", "tags", "javascripts"], IsListed (v.get? key)
  options : GivenAs IsMap (v.get? "extra_options")
  directory : GivenAs IsText (v.get? "template_dir")
  handlers : GivenAs (IsHandlerList compile) (v.get? "example_handlers")

/-- Every setting is the one that the value of a document has. -/
structure ReadFrom (compile : PatternReader) (root : Path) (v : Value) (s : Settings) : Prop where
  namespaces : ReadsTexts (v.get? "namespaces") s.namespaces
  tags : ReadsTexts (v.get? "tags") s.tags
  javascripts : ReadsTexts (v.get? "javascripts") s.javascripts
  template : s.template = (v.get? "template").getD (.text defaultTemplate)
  templateDir : ReadsGiven (ReadsDirectory root) none (v.get? "template_dir") s.templateDir
  handlers : ReadsGiven (ReadsHandlers compile) [] (v.get? "example_handlers") s.handlers
  extraOptions : ReadsGiven ReadsOptions [] (v.get? "extra_options") s.extraOptions

/-- No pattern of a handler asks for more repetitions than a pattern may: this is the only fault in
a value that is not put up with. -/
def Bounded (compile : PatternReader) (v : Value) : Prop :=
  ∀ ws, v.get? "example_handlers" = some (.list ws) → ∀ w ∈ ws, ∀ s,
    w.get? "pattern" = some (.text s) → compile s ≠ .error .tooManyRepeats

theorem decides_ofValue (compile : PatternReader) (root : Path) (v : Value) :
  Decides (¬ Bounded compile v) (WellShaped compile v) (ReadFrom compile root v)
    (ofValue root v compile)
  := by
  cases v with
  | map es =>
    have hfault : ∀ ws, (Value.map es).get? "example_handlers" = some (.list ws) → ∀ w ∈ ws, ∀ s,
        w.get? "pattern" = some (.text s) → compile s = .error .tooManyRepeats →
          ¬ Bounded compile (.map es) := by
      intro ws hws w hw s hs hparse hbounded
      apply hbounded ws hws w hw s hs hparse
    have hall : Decides (¬ Bounded compile (.map es)) _ (ReadFrom compile root (.map es))
        (ofValue root (.map es) compile) :=
      (decides_options _).bind fun extraOptions hoptions =>
        (decides_textList _).bind fun namespaces hnamespaces =>
        (decides_textList _).bind fun tags htags =>
        (decides_textList _).bind fun javascripts hjavascripts =>
        (decides_directory root _).bind fun templateDir htemplateDir =>
        (decides_handlerList hfault).bind_pure fun handlers hhandlers =>
        { namespaces := hnamespaces
          tags := htags
          javascripts := hjavascripts
          template := rfl
          templateDir := htemplateDir
          handlers := hhandlers
          extraOptions := hoptions }
    refine hall.congr ?_ fun s hs => hs
    constructor
    · rintro ⟨hoptions, hnamespaces, htags, hjavascripts, hdirectory, hhandlers⟩
      exact ⟨by simp [hnamespaces, htags, hjavascripts], hoptions, hdirectory, hhandlers⟩
    · rintro ⟨hlists, hoptions, hdirectory, hhandlers⟩
      exact ⟨hoptions, hlists _ (by simp), hlists _ (by simp), hlists _ (by simp), hdirectory,
        hhandlers⟩
  | _ =>
    -- There is no entry in a value that is no map, so each setting is its default.
    exact .accepted ⟨fun _ _ => nofun, nofun, nofun, nofun⟩
      ⟨.absent, .absent, .absent, rfl, .absent, .absent, .absent⟩

/-! ### The settings of a file -/

theorem load_of_ok {root : Path} {v : Value} {s : Settings} (h : ofValue root v compile = .ok s) :
  load root (.document v) compile = .ok ([], s)
  := by
  simp only [load, h]

theorem load_of_error {root : Path} {v : Value} {e : SettingsError}
    (h : ofValue root v compile = .error e) (he : e.isFatal = false) :
  load root (.document v) compile
    = .ok ([.ignoredSettings (root.join (Path.parse fileName)).text e.message], {})
  := by
  simp only [load, h, he, Bool.false_eq_true, if_false]

theorem load_of_fatal {root : Path} {v : Value} {e : SettingsError}
    (h : ofValue root v compile = .error e) (he : e.isFatal) :
  load root (.document v) compile = .error e
  := by
  simp only [load, h, he, if_true]

/-- What comes of loading settings from the value of a document. -/
inductive Loaded (compile : PatternReader) (root : Path) (v : Value) :
    Except SettingsError (List Notice × Settings) → Prop where
  | used {s : Settings} : WellShaped compile v → ReadFrom compile root v s →
      Loaded compile root v (.ok ([], s))
  | ignored {notice : Notice} : ¬ WellShaped compile v → notice.level = .warning →
      Loaded compile root v (.ok ([notice], {}))
  | fatal {e : SettingsError} : ¬ WellShaped compile v → ¬ Bounded compile v →
      Loaded compile root v (.error e)

theorem loaded_load (compile : PatternReader) (root : Path) (v : Value) :
  Loaded compile root v (load root (.document v) compile)
  := by
  have hdecides := decides_ofValue compile root v
  cases hvalue : ofValue root v compile with
  | ok s =>
    rw [hvalue] at hdecides
    cases hdecides with
    | accepted hshape hs =>
      rw [load_of_ok hvalue]
      exact .used hshape hs
  | error e =>
    rw [hvalue] at hdecides
    cases hdecides with
    | refused hshape hfault =>
      cases he : e.isFatal with
      | false =>
        rw [load_of_error hvalue he]
        exact .ignored hshape rfl
      | true =>
        rw [load_of_fatal hvalue he]
        exact .fatal hshape (hfault he)

/-- Settings are always loaded from the value of a document, and wholly or not at all, whichever
texts can be read as patterns. -/
theorem load_wholly_or_not_at_all (compile : PatternReader) (root : Path) (v : Value)
    (hbounded : Bounded compile v) :
  (∃ notices s, load root (.document v) compile = .ok (notices, s))
    ∧ (¬ IsMap v → load root (.document v) compile = .ok ([], {}))
    ∧ (IsMap v →
      ((∃ notice : Notice, notice.level = .warning
            ∧ load root (.document v) compile = .ok ([notice], {}))
          ↔ ¬ WellShaped compile v)
        ∧ (WellShaped compile v →
          ∃ s, load root (.document v) compile = .ok ([], s) ∧ ReadFrom compile root v s))
  := by
  have hnomap : ¬ IsMap v → load root (.document v) compile = .ok ([], {}) := by
    intro hmap
    cases v with
    | map es => exact absurd ⟨es, rfl⟩ hmap
    | _ => rfl
  have hloaded := loaded_load compile root v
  generalize load root (.document v) compile = answer at hnomap hloaded ⊢
  cases hloaded with
  | @used s hshape hread =>
    refine ⟨⟨[], s, rfl⟩, hnomap, fun _ => ⟨?_, fun _ => ⟨s, rfl, hread⟩⟩⟩
    constructor
    · rintro ⟨_, _, h⟩
      cases h
    · intro h
      exact absurd hshape h
  | @ignored notice hshape hlevel =>
    refine ⟨⟨[notice], {}, rfl⟩, hnomap, fun _ => ⟨?_, fun h => absurd h hshape⟩⟩
    exact ⟨fun _ => hshape, fun _ => ⟨notice, hlevel, rfl⟩⟩
  | fatal _ hnot => exact absurd hbounded hnot

/-- A reader of patterns that knows the name of one character. -/
def bulletReader : PatternReader := fun s =>
  Pattern.parse s fun name => if name = "BULLET" then some '•' else none

/-- A document with tags and one handler, whose pattern names a character. -/
def handlerDocument (tags test : Value) : Value :=
  .map
    [("tags", tags),
      ("example_handlers",
        .list [.map [("pattern", .text "^\\N\x7bBULLET\x7d"), ("test", test)]])]

theorem exists_bulletReader :
  ∃ p, bulletReader "^\\N\x7bBULLET\x7d" = .ok p
  := ⟨_, rfl⟩

theorem bounded_handlerDocument (tags test : Value) :
  Bounded bulletReader (handlerDocument tags test)
  := by
  intro ws hws w hw s hs
  obtain rfl : [Value.map [("pattern", .text "^\\N\x7bBULLET\x7d"), ("test", test)]] = ws :=
    Value.list.inj (Option.some.inj hws)
  obtain rfl := List.mem_singleton.1 hw
  obtain rfl : "^\\N\x7bBULLET\x7d" = s := Value.text.inj (Option.some.inj hs)
  obtain ⟨p, hp⟩ := exists_bulletReader
  rw [hp]
  exact nofun

theorem wellShaped_handlerDocument_iff {tags test : Value} :
  WellShaped bulletReader (handlerDocument tags test) ↔ IsListed (some tags)
  := by
  constructor
  · intro h
    apply h.lists "tags" (by simp)
  · intro h
    refine ⟨?_, nofun, nofun, ?_⟩
    · intro key hkey
      simp only [List.mem_cons, List.not_mem_nil, or_false] at hkey
      rcases hkey with rfl | rfl | rfl
      · exact nofun
      · exact h
      · exact nofun
    · rintro _ ⟨rfl⟩ -
      obtain ⟨p, hp⟩ := exists_bulletReader
      exact ⟨_, rfl, List.forall_mem_singleton.2 ⟨⟨_, rfl⟩, _, p, rfl, hp⟩⟩

/-- A list of tags is read together with the handler, and with a text in its place the handler is
not used either. -/
theorem load_wholly_or_not_at_all_handlerDocument :
  (Bounded bulletReader (handlerDocument (.list [.text "public", .int 2]) (.text "check"))
      ∧ ∃ s, load ⟨"/", []⟩
          (.document (handlerDocument (.list [.text "public", .int 2]) (.text "check"))) bulletReader
          = .ok ([], s)
        ∧ s.tags = ["public", "2"] ∧ s.handlers.map Handler.test = [.text "check"]
        ∧ ∀ h ∈ s.handlers, bulletReader "^\\N\x7bBULLET\x7d" = .ok h.pattern)
    ∧ Bounded bulletReader (handlerDocument (.text "public") (.text "check"))
    ∧ ∃ notice : Notice, notice.level = .warning
      ∧ load ⟨"/", []⟩ (.document (handlerDocument (.text "public") (.text "check"))) bulletReader
        = .ok ([notice], {})
  := by
  refine ⟨⟨bounded_handlerDocument _ _, ?_⟩, bounded_handlerDocument _ _, ?_⟩
  · obtain ⟨-, -, h⟩ := load_wholly_or_not_at_all bulletReader ⟨"/", []⟩
      (handlerDocument (.list [.text "public", .int 2]) (.text "check")) (bounded_handlerDocument _ _)
    have hlisted : IsListed (some (.list [.text "public", .int 2])) := by
      rintro _ ⟨rfl⟩
      exact .inr ⟨_, rfl⟩
    obtain ⟨s, hs, hread⟩ := (h ⟨_, rfl⟩).2 (wellShaped_handlerDocument_iff.2 hlisted)
    have htags : ReadsTexts (some (.list [.text "public", .int 2])) s.tags := hread.tags
    have hhandlers : ReadsGiven (ReadsHandlers bulletReader) []
        (some (.list [.map [("pattern", .text "^\\N\x7bBULLET\x7d"), ("test", .text "check")]]))
        s.handlers := hread.handlers
    refine ⟨s, hs, ?_, ?_⟩
    · generalize s.tags = tags at htags ⊢
      cases htags
      decide
    · generalize s.handlers = handlers at hhandlers ⊢
      cases hhandlers with
      | empty hempty => cases hempty
      | given _ hgiven =>
        obtain ⟨_, ⟨rfl⟩, hall⟩ := hgiven
        obtain ⟨handler, _, hone, hnil, rfl⟩ := List.forall₂_cons_left_iff.1 hall
        cases hnil
        obtain ⟨_, ⟨rfl⟩, hpattern⟩ := hone.pattern
        rw [List.forall_mem_singleton, List.map_singleton, hone.test]
        exact ⟨rfl, hpattern⟩
  · obtain ⟨-, -, h⟩ := load_wholly_or_not_at_all bulletReader ⟨"/", []⟩
      (handlerDocument (.text "public") (.text "check")) (bounded_handlerDocument _ _)
    apply (h ⟨_, rfl⟩).1.2
    rw [wellShaped_handlerDocument_iff]
    intro hlisted
    obtain hnull | ⟨ws, hlist⟩ := hlisted _ rfl
    · cases hnull
    · cases hlist

/-! ### The kinds of settings -/

/-- The settings are of the kinds that are asked for.  All but these two are so by their types. -/
structure WellTyped (s : Settings) : Prop where
  template : IsText s.template
  tests : ∀ h ∈ s.handlers, IsText h.test

/-- The template and the scripts of the handlers in the value of a document are texts. -/
structure TextsGiven (v : Value) : Prop where
  template : ∀ w, v.get? "template" = some w → IsText w
  tests : ∀ ws, v.get? "example_handlers" = some (.list ws) → ∀ u ∈ ws, ∀ w,
    u.get? "test" = some w → IsText w

theorem isText_getD_iff {o : Option Value} {s : String} :
  IsText (o.getD (.text s)) ↔ ∀ w, o = some w → IsText w
  := by
  cases o with
  | none => simp [IsText]
  | some w => simp

theorem forall_isText_test_iff {ws : List Value} {hs : List Handler}
    (h : List.Forall₂ (ReadsHandler compile) ws hs) :
  (∀ h ∈ hs, IsText h.test) ↔ ∀ u ∈ ws, ∀ w, u.get? "test" = some w → IsText w
  := by
  induction h with
  | nil => simp
  | cons hread _ ih =>
    rw [List.forall_mem_cons, List.forall_mem_cons, ih, hread.test, isText_getD_iff]

theorem ReadFrom.tests_iff {root : Path} {v : Value} {s : Settings}
    (h : ReadFrom compile root v s) :
  (∀ h ∈ s.handlers, IsText h.test)
    ↔ ∀ ws, v.get? "example_handlers" = some (.list ws) → ∀ u ∈ ws, ∀ w,
      u.get? "test" = some w → IsText w
  := by
  have hhandlers := h.handlers
  generalize v.get? "example_handlers" = o, s.handlers = hs at hhandlers ⊢
  cases hhandlers with
  | absent => simp
  | empty hempty =>
    -- A list that does not hold has no handler in it.
    constructor
    · rintro - ws ⟨rfl⟩ u hu
      cases ws with
      | nil => cases hu
      | cons u us => cases hempty
    · intro _ h hmem
      cases hmem
  | given _ hread =>
    obtain ⟨ws, rfl, hall⟩ := hread
    rw [forall_isText_test_iff hall]
    simp

/-- Settings that are used are of the kinds that are asked for exactly if the value has them so. -/
theorem ReadFrom.wellTyped_iff {root : Path} {v : Value} {s : Settings}
    (h : ReadFrom compile root v s) :
  s.WellTyped ↔ TextsGiven v
  := by
  have htemplate : IsText s.template ↔ ∀ w, v.get? "template" = some w → IsText w := by
    rw [h.template, isText_getD_iff]
  constructor
  · intro htyped
    exact ⟨htemplate.1 htyped.template, h.tests_iff.1 htyped.tests⟩
  · intro hgiven
    exact ⟨htemplate.2 hgiven.template, h.tests_iff.2 hgiven.tests⟩

theorem wellTyped_default :
  WellTyped {}
  := ⟨⟨defaultTemplate, rfl⟩, nofun⟩

/-- The settings that are loaded from the value of a document are of the kinds that are asked for,
unless the value is well shaped and its template or a script of a handler is no text; then they are
used as they are, and nothing is said. -/
theorem wellTyped_load_iff (compile : PatternReader) (root : Path) (v : Value) :
  (Bounded compile v → ∃ notices s, load root (.document v) compile = .ok (notices, s))
    ∧ ∀ notices s, load root (.document v) compile = .ok (notices, s) →
      (s.WellTyped ↔ (WellShaped compile v → TextsGiven v))
        ∧ (¬ s.WellTyped → notices = [] ∧ ReadFrom compile root v s)
  := by
  have hloaded := loaded_load compile root v
  generalize load root (.document v) compile = answer at hloaded ⊢
  cases hloaded with
  | @used s hshape hread =>
    refine ⟨fun _ => ⟨[], s, rfl⟩, ?_⟩
    rintro _ _ ⟨rfl⟩
    rw [hread.wellTyped_iff]
    exact ⟨⟨fun h _ => h, fun h => h hshape⟩, fun _ => ⟨rfl, hread⟩⟩
  | @ignored notice hshape _ =>
    refine ⟨fun _ => ⟨[notice], {}, rfl⟩, ?_⟩
    rintro _ _ ⟨rfl⟩
    exact ⟨⟨fun _ h => absurd h hshape, fun _ => wellTyped_default⟩,
      fun h => absurd wellTyped_default h⟩
  | fatal _ hnot => exact ⟨fun h => absurd h hnot, nofun⟩

/-- A handler gets through with nothing in place of its script. -/
theorem wellTyped_load_iff_handlerDocument :
  Bounded bulletReader (handlerDocument .null .null)
    ∧ ∃ notices s, load ⟨"/", []⟩ (.document (handlerDocument .null .null)) bulletReader
        = .ok (notices, s)
      ∧ ¬ s.WellTyped ∧ notices = []
  := by
  have hbounded := bounded_handlerDocument .null .null
  obtain ⟨hexists, hall⟩ := wellTyped_load_iff bulletReader ⟨"/", []⟩ (handlerDocument .null .null)
  obtain ⟨notices, s, hs⟩ := hexists hbounded
  obtain ⟨htyped, hread⟩ := hall notices s hs
  have hshape : WellShaped bulletReader (handlerDocument .null .null) := by
    rw [wellShaped_handlerDocument_iff]
    rintro _ ⟨rfl⟩
    exact .inl rfl
  have hnot : ¬ s.WellTyped := by
    intro h
    obtain ⟨t, ht⟩ := (htyped.1 h hshape).tests _ rfl _ (List.mem_singleton_self _) .null rfl
    cases ht
  exact ⟨hbounded, notices, s, hs, hnot, (hread hnot).1⟩

/-- A number in place of the template gets through. -/
theorem not_wellTyped_load_template :
  ∃ s, load ⟨"/", []⟩ (.document (.map [("template", .int 5)])) = .ok ([], s) ∧ ¬ s.WellTyped
  := ⟨{ template := .int 5 }, rfl, fun h => nomatch h.template⟩

end DocPages.Settings
