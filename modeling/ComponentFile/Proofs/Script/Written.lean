import Mathlib.Tactic
import ComponentFile.Proofs.Script.Statements
import ComponentFile.Registration.Register

/-!
The scripts that registration writes are well formed and list the component.

* `IsOptions content name tree`: the tree is an object literal that lists the component among its
  options.
* `IsExport content name tree`: the tree is a default export of such options, which may be handed to
  a call.
* `IsImport stop tree`: the tree is an import that ends at the offset.
* `options_eq`, `export_eq`, `component_import`: the options, the default export and the import that
  are written are read as such.
* `program_written`: the whole content, behind any blanks, is a script of imports and a default
  export that lists the component.
-/

namespace ComponentFile

open Text

namespace Script

/-! ### Options -/

/-- The options have a `components` option, an object literal, that lists the name. -/
def ListsComponent (options : ObjectLiteral) (name : Text) : Prop :=
  ∃ property components, options.property? "components" = some property
    ∧ property.value.asObject? = some components ∧ components.lists name = true

/-- The tree is an object literal without faults, the options of a component that lists the name. -/
structure IsOptions (content name : Text) (tree : Tree) : Prop where
  hasFault : tree.hasFault = false
  kind : tree.kind = .object
  lists : ∀ origin, ∃ options, (valueOf ⟨content, origin⟩ tree).asObject? = some options
    ∧ ListsComponent options name

/-- A single name in braces, with a comma behind it. -/
def listing (name t : Text) : Text :=
  '\x7b' :: ("\n\t\t".toList ++ (name ++ ',' :: ("\n\t".toList ++ '\x7d' :: t)))

/-- What is written behind the `components` option, up to the closing brace. -/
def optionsTail : (setup : Bool) → (t : Text) → Text
  | true, t => "\n\t".toList ++ ("setup".toList ++ '(' :: ')' :: (" ".toList ++ '\x7b'
      :: ("\n\t\t\n\t".toList ++ '\x7d' :: ',' :: ("\n".toList ++ '\x7d' :: t))))
  | false, t => "\n".toList ++ '\x7d' :: t

/-- The options that are written for a component. -/
def optionsText (name : Text) (setup : Bool) (t : Text) : Text :=
  '\x7b' :: ("\n\t".toList ++ ("components".toList ++ ':' :: ' '
    :: listing name (',' :: optionsTail setup t)))

lemma optionsTail_append (setup : Bool) (t : Text) :
    optionsTail setup t = optionsTail setup [] ++ t := by
  cases setup <;> simp [optionsTail]

lemma optionsText_append (name : Text) (setup : Bool) (t : Text) :
    optionsText name setup t = optionsText name setup [] ++ t := by
  simp [optionsText, listing, optionsTail_append setup t]

section Options

variable {cur next : Cursor} {q t name : Text}

/-- The closing brace of a list, behind blanks. -/
lemma faces_close {b : Text} (hb : ∀ c ∈ b, isGapBlank c = true) (q t : Text) :
    Faces (.between q (b ++ '\x7d' :: t)) (q ++ b) ('\x7d' :: t) :=
  faces_between hb (beginsToken_cons (by decide)) q

lemma listing_listed {item : Reader Tree} {entry : Tree}
    (hentry : item (.between (q ++ ['\x7b'])
        ("\n\t\t".toList ++ (name ++ ',' :: ("\n\t".toList ++ '\x7d' :: t))))
      = some (entry, .between (q ++ ['\x7b'] ++ "\n\t\t".toList ++ name)
        (',' :: ("\n\t".toList ++ '\x7d' :: t))))
    (hclose : ∀ cursor, Glance cursor [] '\x7d' → item cursor = none) :
    Listed item (.between (q ++ ['\x7b'])
        ("\n\t\t".toList ++ (name ++ ',' :: ("\n\t".toList ++ '\x7d' :: t)))) [entry]
      (.between (q ++ ['\x7b'] ++ "\n\t\t".toList ++ name ++ [','])
        ("\n\t".toList ++ '\x7d' :: t)) := by
  have hglance := (faces_close (b := "\n\t".toList) (by decide)
    (q ++ ['\x7b'] ++ "\n\t\t".toList ++ name ++ [',']) t).glance_mark (by decide)
  refine .item hentry ?_ (.close hglance (hclose _ hglance))
  simp only [Cursor.between, List.length_append, List.length_cons]
  omega

/-- The listed name as an object literal. -/
lemma listing_objectLiteral (h : Faces cur q (listing name t)) (hname : IsName name)
    (hword : name ∉ memberWords) (g : Grammar) : objectLiteral g cur
      = some (.node .object .plain q.bytes (q ++ listing name []).bytes
        [.leaf .shorthand (q ++ ['\x7b'] ++ "\n\t\t".toList).bytes
          (q ++ ['\x7b'] ++ "\n\t\t".toList ++ name).bytes],
        .between (q ++ listing name []) t) := by
  have hface : Faces (.between (q ++ ['\x7b'])
      ("\n\t\t".toList ++ (name ++ ',' :: ("\n\t".toList ++ '\x7d' :: t))))
      (q ++ ['\x7b'] ++ "\n\t\t".toList) (name ++ ',' :: ("\n\t".toList ++ '\x7d' :: t)) :=
    faces_between (by decide) (hname.beginsToken _) _
  have hlisted := listing_listed (shorthand_entry hface hname hword g)
    fun cursor hcursor => objectEntry_eq_none hcursor g
  have hclose := (faces_close (b := "\n\t".toList) (by decide)
    (q ++ ['\x7b'] ++ "\n\t\t".toList ++ name ++ [',']) t).mark_char (m := "\x7d") rfl
  have hend : q ++ ['\x7b'] ++ "\n\t\t".toList ++ name ++ [','] ++ "\n\t".toList ++ ['\x7d']
      = q ++ listing name [] := by simp [listing]
  rw [hend] at hclose
  exact objectLiteral_eq h hlisted hclose

/-- The listed name as a pattern. -/
lemma listing_pattern (h : Faces cur q (listing name t)) (hname : IsName name) (g : Grammar) :
    ∃ target, pattern g cur = some (target, .between (q ++ listing name []) t) := by
  have hface : Faces (.between (q ++ ['\x7b'])
      ("\n\t\t".toList ++ (name ++ ',' :: ("\n\t".toList ++ '\x7d' :: t))))
      (q ++ ['\x7b'] ++ "\n\t\t".toList) (name ++ ',' :: ("\n\t".toList ++ '\x7d' :: t)) :=
    faces_between (by decide) (hname.beginsToken _) _
  obtain ⟨entry, hentry⟩ := name_patternEntry hface hname (by decide) g
  have hlisted := listing_listed hentry fun cursor hcursor => objectPatternEntry_eq_none hcursor g
  have hclose := (faces_close (b := "\n\t".toList) (by decide)
    (q ++ ['\x7b'] ++ "\n\t\t".toList ++ name ++ [',']) t).mark_char (m := "\x7d") rfl
  have hend : q ++ ['\x7b'] ++ "\n\t\t".toList ++ name ++ [','] ++ "\n\t".toList ++ ['\x7d']
      = q ++ listing name [] := by simp [listing]
  rw [hend] at hclose
  rw [pattern_eq h hlisted, hclose]
  exact ⟨_, rfl⟩

/-- The listed name as an expression, in a grammar of any depth. -/
lemma listing_expression (h : Faces cur q (listing name (',' :: t))) (hname : IsName name)
    (hword : name ∉ memberWords) (depth : Nat) : expression (grammar depth) .nested cur
      = some (.node .object .plain q.bytes (q ++ listing name []).bytes
        [.leaf .shorthand (q ++ ['\x7b'] ++ "\n\t\t".toList).bytes
          (q ++ ['\x7b'] ++ "\n\t\t".toList ++ name).bytes],
        .between (q ++ listing name []) (',' :: t)) := by
  have hself := faces_self h.token q
  have hcomma : Glance (.between (q ++ listing name []) (',' :: t)) [] ',' :=
    (faces_self (beginsToken_cons (by decide)) _).glance_mark (by decide)
  refine expression_object h (listing_objectLiteral hself hname hword _) ?_
    (.inr ⟨',', hcomma, by decide⟩)
  cases depth with
  | zero => exact .inl rfl
  | succ depth => exact .inr (listing_pattern hself hname _)

/-- The name of the setup method, if there is one. -/
lemma optionsTail_faces (q t : Text) : Faces (.between q (optionsTail true t)) (q ++ "\n\t".toList)
    ("setup".toList ++ '(' :: ')' :: (" ".toList ++ '\x7b' :: ("\n\t\t\n\t".toList
      ++ '\x7d' :: ',' :: ("\n".toList ++ '\x7d' :: t)))) :=
  faces_between (by decide) (beginsToken_cons (by decide)) q

/-- The closing brace behind the `components` option. -/
lemma optionsTail_close (item : Reader Tree) (q t : Text)
    (hitem : ∀ cursor, Glance cursor [] '\x7d' → item cursor = none) :
    Listed item (.between q (optionsTail false t)) [] (.between q (optionsTail false t))
      ∧ mark "\x7d" (.between q (optionsTail false t))
        = some ((), .between (q ++ optionsTail false []) t) := by
  have hclose : Faces (.between q (optionsTail false t)) (q ++ "\n".toList) ('\x7d' :: t) :=
    faces_close (by decide) q t
  have hglance := hclose.glance_mark (by decide)
  have hmark := hclose.mark_char (m := "\x7d") rfl
  have hend : q ++ "\n".toList ++ ['\x7d'] = q ++ optionsTail false [] := by simp [optionsTail]
  rw [hend] at hmark
  exact ⟨.close hglance (hitem _ hglance), hmark⟩

/-- What stands behind the `components` option is read as entries of an object literal. -/
lemma optionsTail_entries (setup : Bool) (q t : Text) (depth : Nat) :
    ∃ more last, Tree.anyFault more = false
      ∧ Listed (objectEntry (grammar depth)) (.between q (optionsTail setup t)) more last
      ∧ mark "\x7d" last = some ((), .between (q ++ optionsTail setup []) t) := by
  have hnone : ∀ cursor, Glance cursor [] '\x7d' → objectEntry (grammar depth) cursor = none :=
    fun cursor hcursor => objectEntry_eq_none hcursor _
  cases setup with
  | false => exact ⟨[], _, rfl, optionsTail_close _ q t hnone⟩
  | true =>
      have hparen : ∀ p u, (grammar depth).pattern (.between p (')' :: u)) = none := by
        intro p u
        have hglance : Glance (.between p (')' :: u)) [] ')' :=
          (faces_self (beginsToken_cons (by decide)) _).glance_mark (by decide)
        cases depth with
        | zero => rfl
        | succ depth => exact pattern_eq_none hglance (by decide) _
      have hbrace : ∀ p u, (grammar depth).statement
          (.between p ("\n\t\t\n\t".toList ++ '\x7d' :: u)) = none := by
        intro p u
        have hglance := (faces_close (b := "\n\t\t\n\t".toList) (by decide) p u).glance_mark
          (by decide)
        exact (grammar_eq_none hglance (by decide) (by decide) depth).2
      obtain ⟨entry, hfault, hentry⟩ := method_entry (optionsTail_faces q t) (by decide)
        (by decide) (by decide) (by decide) hparen hbrace
      obtain ⟨hlisted, hmark⟩ := optionsTail_close _ (q ++ "\n\t".toList ++ "setup".toList ++ ['(']
        ++ [')'] ++ " ".toList ++ ['\x7b'] ++ "\n\t\t\n\t".toList ++ ['\x7d'] ++ [',']) t hnone
      have hend : q ++ "\n\t".toList ++ "setup".toList ++ ['('] ++ [')'] ++ " ".toList ++ ['\x7b']
          ++ "\n\t\t\n\t".toList ++ ['\x7d'] ++ [','] ++ optionsTail false []
          = q ++ optionsTail true [] := by
        simp [optionsTail]
      rw [hend] at hmark
      refine ⟨[entry], _, ?_, .item hentry ?_ hlisted, hmark⟩
      · simp [Tree.anyFault, hfault]
      · simp [Cursor.between, optionsTail]

/-- As a pattern, the options are read up to their end or, with a method among them, not at all. -/
lemma optionsTail_patternEntries (setup : Bool) (q t : Text) (g : Grammar) :
    ∃ more last, Listed (objectPatternEntry g) (.between q (optionsTail setup t)) more last
      ∧ (mark "\x7d" last = none
        ∨ mark "\x7d" last = some ((), .between (q ++ optionsTail setup []) t)) := by
  cases setup with
  | false =>
      obtain ⟨hlisted, hmark⟩ := optionsTail_close (objectPatternEntry g) q t
        fun cursor hcursor => objectPatternEntry_eq_none hcursor g
      exact ⟨[], _, hlisted, .inr hmark⟩
  | true =>
      obtain ⟨entry, hentry⟩ := name_patternEntry (optionsTail_faces q t) (by decide) (by decide) g
      have hparen := (faces_self (t := '(' :: ')' :: (" ".toList ++ '\x7b'
          :: ("\n\t\t\n\t".toList ++ '\x7d' :: ',' :: ("\n".toList ++ '\x7d' :: t))))
        (beginsToken_cons (by decide)) (q ++ "\n\t".toList ++ "setup".toList)).glance_mark
        (by decide)
      refine ⟨[entry], _, .last hentry ?_ ?_, .inl ?_⟩
      · simp [Cursor.between, optionsTail]
      · exact mark_eq_none (hparen.sees_eq_false (by decide))
      · exact mark_eq_none (hparen.sees_eq_false (by decide))

/-- The text of a name in the middle of a script. -/
lemma text_leaf {content u : Text} (hcontent : content = q ++ (name ++ u)) (kind : Kind)
    (origin : Position) (role : Role) :
    Site.text ⟨content, origin⟩ ((Tree.leaf kind q.bytes (q ++ name).bytes).playing role)
      = name := by
  have hslice := slice_append q name u
  rw [← hcontent, ← Text.bytes_append] at hslice
  exact hslice

/-- An object literal with the `components` option first lists what that option lists. -/
lemma isOptions_of_components {content key listed a b : Text} {more : List Tree}
    {start stop start' stop' stop'' : Nat} (hkey : content = key ++ ("components".toList ++ a))
    (hlisted : content = listed ++ (name ++ b)) (hmore : Tree.anyFault more = false) :
    IsOptions content name (.node .object .plain start stop
      (.node .pair .plain key.bytes stop''
        [(Tree.leaf .other key.bytes (key ++ "components".toList).bytes).playing .key,
          (Tree.node .object .plain start' stop'
            [.leaf .shorthand listed.bytes (listed ++ name).bytes]).playing .value] :: more)) where
  hasFault := by
    simp [Tree.hasFault, Tree.anyFault, Kind.isFault, Tree.leaf, Tree.playing, hmore]
  kind := rfl
  lists origin := by
    have hcomponents := text_leaf hkey .other origin .key
    have hname := text_leaf hlisted .shorthand origin .plain
    simp only [Tree.leaf, Tree.playing] at hcomponents hname
    have hfirst : Site.key ⟨content, origin⟩
        (.node .other .key key.bytes (key ++ "components".toList).bytes [])
          = "components".toList := by
      rw [Site.key, if_neg (by simp [Tree.kind]), hcomponents]
    obtain ⟨span, place, place', place'', hvalue⟩ : ∃ span place place' place'',
        valueOf ⟨content, origin⟩ (.node .object .plain start stop
          (.node .pair .plain key.bytes stop''
            [(Tree.leaf .other key.bytes (key ++ "components".toList).bytes).playing .key,
              (Tree.node .object .plain start' stop'
                [.leaf .shorthand listed.bytes (listed ++ name).bytes]).playing .value] :: more))
          = .object span (⟨"components".toList, .object place [⟨name, .identifier name, place'⟩],
            place''⟩ :: propertiesOf ⟨content, origin⟩ more) := by
      simp only [valueOf, if_true, propertiesOf, propertyOf?, Tree.child?, Tree.children,
        Tree.playing, Tree.leaf, List.find?_cons, Tree.role, decide_true, Option.map_some, hfirst,
        Option.toList_some, List.cons_append, List.nil_append, pairValue, hname]
      exact ⟨_, _, _, _, rfl⟩
    rw [hvalue]
    exact ⟨_, rfl, _, _, List.find?_cons_of_pos (by simp), rfl, by simp [ObjectLiteral.lists]⟩

/-- **The options that are written are read as such.** -/
lemma options_eq {setup : Bool} (h : Faces cur q (optionsText name setup t))
    (hname : IsName name) (hword : name ∉ memberWords) (context : Context)
    (hcloses : Closes context (.between (q ++ optionsText name setup []) t)) (depth : Nat) :
    ∃ tree, IsOptions (q ++ optionsText name setup t) name tree
      ∧ expression (grammar (depth + 2)) context cur
        = some (tree, .between (q ++ optionsText name setup []) t) := by
  set u := optionsTail setup t with hu
  set k := q ++ ['\x7b'] ++ "\n\t".toList with hk
  set v := k ++ "components".toList ++ [':'] ++ [' '] with hv
  have hself := faces_self h.token q
  have hkey : Faces (.between (q ++ ['\x7b']) ("\n\t".toList ++ ("components".toList ++ ':' :: ' '
      :: listing name (',' :: u)))) k ("components".toList ++ ':' :: ' '
        :: listing name (',' :: u)) :=
    faces_between (by decide) (beginsToken_cons (by decide)) _
  have hface : Faces (.between (k ++ "components".toList ++ [':']) (' ' :: listing name (',' :: u)))
      v (listing name (',' :: u)) :=
    faces_between (b := [' ']) (by decide) (beginsToken_cons (by decide)) _
  have hcomma : Glance (.between (v ++ listing name []) (',' :: u)) [] ',' :=
    (faces_self (beginsToken_cons (by decide)) _).glance_mark (by decide)
  have hlt : u.length < ("\n\t".toList ++ ("components".toList ++ ':' :: ' '
      :: listing name (',' :: u))).length := by
    simp only [listing, List.length_append, List.length_cons]
    omega
  have hend : v ++ listing name [] ++ [','] ++ optionsTail setup []
      = q ++ optionsText name setup [] := by
    simp [hv, hk, optionsText, listing]
  have hentry := pair_entry (g := grammar (depth + 2)) hkey (by decide)
    (listing_expression hface hname hword (depth + 1))
  obtain ⟨more, last, hmore, hlisted, hclose⟩ :=
    optionsTail_entries setup (v ++ listing name [] ++ [',']) t (depth + 2)
  rw [hend] at hclose
  obtain ⟨target, htarget⟩ := listing_pattern (faces_self hface.token v) hname (grammar depth)
  obtain ⟨entry, hentry'⟩ := pair_patternEntry (g := grammar (depth + 1)) hkey (by decide) hface
    htarget hcomma
  obtain ⟨more', last', hlisted', hclose'⟩ :=
    optionsTail_patternEntries setup (v ++ listing name [] ++ [',']) t (grammar (depth + 1))
  rw [hend] at hclose'
  refine ⟨_, isOptions_of_components (a := ':' :: ' ' :: listing name (',' :: u))
    (b := ',' :: ("\n\t".toList ++ '\x7d' :: ',' :: u)) ?_ ?_ hmore,
    expression_object h (objectLiteral_eq hself (.item hentry hlt hlisted) hclose) ?_ hcloses⟩
  · simp [hk, hu, optionsText]
  · simp [hv, hk, hu, optionsText, listing]
  · have hpattern := pattern_eq hself (.item hentry' hlt hlisted')
    rcases hclose' with hnone | hsome
    · exact .inl (by rw [hnone] at hpattern; exact hpattern)
    · exact .inr ⟨_, by rw [hsome] at hpattern; exact hpattern⟩

end Options

/-! ### Exports -/

/-- The default export that is written for a component. A typed script exports the options through
the wrapper. -/
def exportText (name : Text) (setup : Bool) : (typed : Bool) → (t : Text) → Text
  | true, t => "export".toList ++ ' ' :: ("default".toList ++ ' ' :: ("defineComponent".toList
      ++ '(' :: optionsText name setup (')' :: t)))
  | false, t => "export".toList ++ ' ' :: ("default".toList ++ ' ' :: optionsText name setup t)

lemma exportText_true (name : Text) (setup : Bool) (t : Text) : exportText name setup true t
    = "export".toList ++ ' ' :: ("default".toList ++ ' ' :: ("defineComponent".toList
      ++ '(' :: optionsText name setup (')' :: t))) := rfl

lemma exportText_false (name : Text) (setup : Bool) (t : Text) : exportText name setup false t
    = "export".toList ++ ' ' :: ("default".toList ++ ' ' :: optionsText name setup t) := rfl

/-- The tree is a default export without faults of options that list the name. -/
structure IsExport (content name : Text) (tree : Tree) : Prop where
  hasFault : tree.hasFault = false
  kind : tree.kind = .exportStatement
  lists : ∀ origin, ∃ declaration options,
    classify ⟨content, origin⟩ tree = .exporting declaration
      ∧ declaration.options? = some options ∧ ListsComponent options name

section Exports

variable {cur : Cursor} {p t name content : Text} {setup typed : Bool} {tree : Tree}

lemma hasFault_playing (tree : Tree) (role : Role) :
    (tree.playing role).hasFault = tree.hasFault := by
  cases tree with
  | node kind role start stop children => rfl

/-- The role of a tree has no part in its value. -/
lemma valueOf_playing (site : Site) (tree : Tree) (role : Role) :
    valueOf site (tree.playing role) = valueOf site tree := by
  cases tree with
  | node kind role start stop children => rfl

/-- Options as what a default export exports. -/
lemma IsOptions.isExport (h : IsOptions content name tree) (start stop start' stop' : Nat) :
    IsExport content name (.node .exportStatement .plain start stop
      [.leaf .defaultMark start' stop', tree.playing .value]) where
  hasFault := by
    simp [Tree.hasFault, Tree.anyFault, Kind.isFault, Tree.leaf, hasFault_playing, h.hasFault]
  kind := rfl
  lists origin := by
    obtain ⟨options, hoptions, hlists⟩ := h.lists origin
    rw [← valueOf_playing _ tree .value] at hoptions
    have hkind := h.kind
    cases tree with
    | node kind role start'' stop'' children =>
        obtain rfl : kind = .object := hkind
        refine ⟨.object options, options, ?_, rfl, hlists⟩
        simp only [Tree.playing] at hoptions
        simp [classify, declarationOf, Tree.kind, Tree.children, Tree.child?, Tree.leaf,
          Tree.playing, Tree.role, unwrap, Kind.isWrapper, hoptions]

/-- Options that are handed to a call as what a default export exports. -/
lemma IsOptions.isExport_call (h : IsOptions content name tree)
    (start stop start' stop' start₁ stop₁ start₂ stop₂ start₃ stop₃ : Nat) :
    IsExport content name (.node .exportStatement .plain start stop
      [.leaf .defaultMark start' stop', (Tree.node .call .plain start₁ stop₁
        [(Tree.leaf .identifier start₂ stop₂).playing .callee,
          (Tree.node .arguments .plain start₃ stop₃ [tree]).playing .arguments]).playing
            .value]) where
  hasFault := by
    simp [Tree.hasFault, Tree.anyFault, Kind.isFault, Tree.leaf, Tree.playing, h.hasFault]
  kind := rfl
  lists origin := by
    obtain ⟨options, hoptions, hlists⟩ := h.lists origin
    obtain ⟨callee, place, hcall⟩ : ∃ callee place, callOf? ⟨content, origin⟩
        (.node .call .value start₁ stop₁ [(Tree.leaf .identifier start₂ stop₂).playing .callee,
          (Tree.node .arguments .plain start₃ stop₃ [tree]).playing .arguments])
          = some ⟨callee, place, some options⟩ := by
      simp [callOf?, Tree.kind, Tree.children, Tree.child?, Tree.leaf, Tree.playing, Tree.role,
        hoptions]
      exact h.kind
    refine ⟨.call ⟨callee, place, some options⟩, options, ?_, rfl, hlists⟩
    simp only [Tree.leaf, Tree.playing] at hcall
    simp [classify, declarationOf, Tree.kind, Tree.children, Tree.child?, Tree.leaf,
      Tree.playing, Tree.role, unwrap, Kind.isWrapper, hcall]

/-- The options that are handed to the wrapper are read as the argument of a call. -/
lemma wrapped_eq (h : Faces cur p ("defineComponent".toList ++ '('
      :: optionsText name setup (')' :: t))) (hname : IsName name) (hword : name ∉ memberWords)
    (ht : endsHere true false t = true) (depth : Nat) {c e : Text}
    (hc : c = p ++ "defineComponent".toList)
    (he : e = c ++ ['('] ++ optionsText name setup [] ++ [')']) :
    ∃ options, IsOptions (c ++ ['('] ++ optionsText name setup (')' :: t)) name options
      ∧ expression (grammar (depth + 3)) .ofStatement cur
        = some (.node .call .plain p.bytes e.bytes
          [(Tree.leaf .identifier p.bytes c.bytes).playing .callee,
            (Tree.node .arguments .plain c.bytes e.bytes [options]).playing .arguments],
          .between e t) := by
  have hparen : Faces (.between c ('(' :: optionsText name setup (')' :: t))) c
      ('(' :: optionsText name setup (')' :: t)) := faces_self (beginsToken_cons (by decide)) _
  have hbrace : Faces (.between (c ++ ['(']) (optionsText name setup (')' :: t))) (c ++ ['('])
      (optionsText name setup (')' :: t)) := faces_self (beginsToken_cons (by decide)) _
  have hclose : Faces (.between (c ++ ['('] ++ optionsText name setup []) (')' :: t))
      (c ++ ['('] ++ optionsText name setup []) (')' :: t) :=
    faces_self (beginsToken_cons (by decide)) _
  have hglance := hclose.glance_mark (by decide)
  have hmark := hclose.mark_char (m := ")") rfl
  rw [← he] at hmark
  obtain ⟨options, hoptions, hexpression⟩ := options_eq hbrace hname hword .nested
    (.inr ⟨_, hglance, by decide⟩) depth
  have hitem : (spread (grammar (depth + 3)) <|> (grammar (depth + 3)).expression .nested)
      (.between (c ++ ['(']) (optionsText name setup (')' :: t)))
      = some (options, .between (c ++ ['('] ++ optionsText name setup []) (')' :: t)) := by
    rw [orElse_apply, spread_eq_none (hbrace.glance_mark (by decide)), Option.none_or]
    exact hexpression
  have hle : (')' :: t).length ≤ (optionsText name setup (')' :: t)).length := by
    simp [optionsText_append name setup (')' :: t)]
  have harguments := arguments_eq hparen (.last hitem hle
    (mark_eq_none (hglance.sees_eq_false (by decide)))) hmark
  have hopen : Context.ofStatement.stops
      (.between c ('(' :: optionsText name setup (')' :: t))) = false :=
    not_stops_of_endsHere (b := []) (by simp) hparen.token rfl _
  subst hc
  exact ⟨options, hoptions, expression_call h (by decide) (by decide) harguments hopen
    (.inl (stops_of_endsHere rfl ht))⟩

/-- **The default export that is written is read as such.** -/
lemma export_eq (h : Faces cur p (exportText name setup typed t)) (hname : IsName name)
    (hword : name ∉ memberWords) (ht : endsHere true false t = true) (depth : Nat) :
    ∃ tree, IsExport (p ++ exportText name setup typed t) name tree
      ∧ exportStatement (grammar (depth + 4)) cur
        = some (tree, .between (p ++ exportText name setup typed []) t) := by
  set d := p ++ "export".toList ++ [' '] ++ "default".toList with hd
  cases typed with
  | false =>
      have hface : Faces (.between d (' ' :: optionsText name setup t)) (d ++ [' '])
          (optionsText name setup t) :=
        faces_between (b := [' ']) (by decide) (beginsToken_cons (by decide)) _
      have hend : d ++ [' '] ++ optionsText name setup []
          = p ++ exportText name setup false [] := by simp [hd, exportText_false]
      have hcontent : d ++ [' '] ++ optionsText name setup t
          = p ++ exportText name setup false t := by simp [hd, exportText_false]
      obtain ⟨options, hoptions, hexpression⟩ := options_eq hface hname hword .ofStatement
        (.inl (stops_of_endsHere rfl ht)) (depth + 1)
      rw [hend] at hexpression
      rw [hcontent] at hoptions
      exact ⟨_, hoptions.isExport _ _ _ _, defaultExport_eq h (hface.glance_mark (by decide))
        (by decide) hexpression ht⟩
  | true =>
      have hface : Faces (.between d (' ' :: ("defineComponent".toList
          ++ '(' :: optionsText name setup (')' :: t)))) (d ++ [' '])
          ("defineComponent".toList ++ '(' :: optionsText name setup (')' :: t)) :=
        faces_between (b := [' ']) (by decide) (beginsToken_cons (by decide)) _
      have hend : p ++ exportText name setup true [] = d ++ [' '] ++ "defineComponent".toList
          ++ ['('] ++ optionsText name setup [] ++ [')'] := by
        simp [hd, exportText_true, optionsText_append name setup [')']]
      have hcontent : d ++ [' '] ++ "defineComponent".toList ++ ['(']
          ++ optionsText name setup (')' :: t) = p ++ exportText name setup true t := by
        simp [hd, exportText_true]
      obtain ⟨options, hoptions, hexpression⟩ := wrapped_eq hface hname hword ht depth rfl hend
      obtain ⟨w, hfirst⟩ := hface.glance_name (by decide) (endsName_cons (by decide))
      rw [hcontent] at hoptions
      exact ⟨_, hoptions.isExport_call _ _ _ _ _ _ _ _ _ _, defaultExport_eq h hfirst (by decide)
        hexpression ht⟩

end Exports

/-! ### Scripts -/

/-- A component whose import and listing are read as such: the name is an identifier that begins
with a capital letter, and the source can stand in quotes. -/
structure Readable (component : Component) : Prop where
  name : IsName component.name
  capital : component.name.head?.any Char.isUpper = true
  source : IsQuotable component.source

/-- The tree is the import of a module, without faults, and ends at the offset. -/
structure IsImport (stop : Nat) (tree : Tree) : Prop where
  kind : tree.kind = .importStatement
  hasFault : tree.hasFault = false
  source : (tree.child? .source).isSome = true
  stop_eq : tree.stop = stop

/-- The statements of a script: imports, and a default export of options that list the name. -/
def IsScript (content name : Text) (statements : List Tree) : Prop :=
  ∃ imports exported, statements = imports ++ [exported]
    ∧ (∀ tree ∈ imports, tree.kind = .importStatement ∧ tree.hasFault = false)
    ∧ IsExport content name exported

section Scripts

variable {cur : Cursor} {p t : Text} {component : Component} {settings : Settings} {typed : Bool}

/-- No word of the language begins with a capital letter. -/
lemma Readable.notMem (h : Readable component) {words : List Text}
    (hwords : ∀ w ∈ words, w.head?.any Char.isUpper = false) : component.name ∉ words := by
  intro hmem
  have hcapital := h.capital
  rw [hwords _ hmem] at hcapital
  cases hcapital

lemma importStatement_append (component : Component) (t : Text) :
    Source.importStatement component ++ t = "import".toList ++ ' ' :: (component.name ++ ' '
      :: ("from".toList ++ ' ' :: '\'' :: (component.source ++ '\'' :: t))) := by
  unfold Source.importStatement
  simp

lemma typeHelperImport_append (t : Text) : Source.typeHelperImport ++ t
    = "import".toList ++ ' ' :: '\x7b' :: ' ' :: ("defineComponent".toList ++ ' ' :: '\x7d' :: ' '
      :: ("from".toList ++ ' ' :: '\'' :: ("vue".toList ++ '\'' :: t))) := by
  unfold Source.typeHelperImport
  simp

lemma options_append (component : Component) (settings : Settings) (t : Text) :
    "\x7b\n\t".toList ++ (Source.options component settings ++ ("\n\x7d".toList ++ t))
      = optionsText component.name (settings.api = .composition) t := by
  unfold Source.options Source.componentsOption Source.setupOption
  split
  · next h => simp [h, optionsText, optionsTail, listing]
  · next h => simp [h, optionsText, optionsTail, listing]

lemma defaultExport_append (component : Component) (settings : Settings) (typed : Bool) (t : Text) :
    Source.defaultExport component settings typed ++ t
      = exportText component.name (settings.api = .composition) typed t := by
  cases typed with
  | false =>
      rw [exportText_false, ← options_append]
      unfold Source.defaultExport
      simp
  | true =>
      rw [exportText_true, ← options_append]
      unfold Source.defaultExport Source.typeHelper
      simp

/-- The import of a component is a statement. -/
lemma component_import (h : Faces cur p (Source.importStatement component ++ t))
    (hcomponent : Readable component) (ht : endsHere false false t = true) (g : Grammar) :
    ∃ tree, IsImport (p ++ Source.importStatement component).bytes tree
      ∧ statement g cur = some (tree, .between (p ++ Source.importStatement component) t) := by
  have hend : p ++ Source.importStatement component = p ++ "import".toList ++ [' ']
      ++ component.name ++ [' '] ++ "from".toList ++ [' ']
      ++ '\'' :: (component.source ++ ['\'']) := by
    rw [← List.append_nil (Source.importStatement component), importStatement_append]
    simp
  rw [importStatement_append] at h
  obtain ⟨parts, hfault, hsource, himport⟩ := import_eq (faces_self h.token p) hcomponent.name
    (hcomponent.notMem (by decide)) hcomponent.source ht hend g
  refine ⟨_, ⟨rfl, ?_, ?_, rfl⟩, import_statement h himport⟩
  · simpa [Tree.hasFault, Kind.isFault] using hfault
  · rw [Tree.child?, List.find?_isSome]
    exact List.any_eq_true.mp hsource

/-- The import of the typed wrapper is a statement. -/
lemma helper_import (h : Faces cur p (Source.typeHelperImport ++ t))
    (ht : endsHere false false t = true) (g : Grammar) :
    ∃ tree : Tree, tree.kind = .importStatement ∧ tree.hasFault = false
      ∧ statement g cur = some (tree, .between (p ++ Source.typeHelperImport) t) := by
  have hend : p ++ Source.typeHelperImport = p ++ "import".toList ++ [' '] ++ ['\x7b'] ++ [' ']
      ++ "defineComponent".toList ++ [' '] ++ ['\x7d'] ++ [' '] ++ "from".toList ++ [' ']
      ++ '\'' :: ("vue".toList ++ ['\'']) := by
    rw [← List.append_nil Source.typeHelperImport, typeHelperImport_append]
    simp
  rw [typeHelperImport_append] at h
  obtain ⟨parts, hfault, himport⟩ := namedImport_eq (faces_self h.token p) (by decide) (by decide)
    (by simp [IsQuotable]) ht hend g
  refine ⟨_, ?_, ?_, import_statement h himport⟩
  · rfl
  · simpa [Tree.hasFault, Kind.isFault] using hfault

/-- The default export is a statement. -/
lemma export_written (h : Faces cur p (Source.defaultExport component settings typed ++ t))
    (hcomponent : Readable component) (ht : endsHere true false t = true) (depth : Nat) :
    ∃ tree, IsExport (p ++ (Source.defaultExport component settings typed ++ t)) component.name tree
      ∧ statement (grammar (depth + 4)) cur
        = some (tree, .between (p ++ Source.defaultExport component settings typed) t) := by
  have hend : p ++ Source.defaultExport component settings typed
      = p ++ exportText component.name (settings.api = .composition) typed [] := by
    rw [← defaultExport_append, List.append_nil]
  rw [defaultExport_append] at h ⊢
  obtain ⟨tree, htree, hexport⟩ := export_eq (faces_self h.token p) hcomponent.name
    (hcomponent.notMem (by decide)) ht depth
  rw [hend]
  refine ⟨tree, htree, ?_⟩
  cases typed with
  | false => exact export_statement h hexport
  | true => exact export_statement h hexport

lemma import_beginsToken (component : Component) (t : Text) :
    BeginsToken (Source.importStatement component ++ t)
      ∧ endsHere false false ("\n".toList ++ (Source.importStatement component ++ t)) = true := by
  rw [importStatement_append]
  exact ⟨beginsToken_cons (by decide), rfl⟩

lemma helper_beginsToken (t : Text) : BeginsToken (Source.typeHelperImport ++ t) := by
  rw [typeHelperImport_append]
  exact beginsToken_cons (by decide)

lemma export_beginsToken (component : Component) (settings : Settings) (typed : Bool) (t : Text) :
    BeginsToken (Source.defaultExport component settings typed ++ t)
      ∧ endsHere false false ("\n\n".toList
        ++ (Source.defaultExport component settings typed ++ t)) = true := by
  rw [defaultExport_append]
  cases typed with
  | false => exact ⟨beginsToken_cons (by decide), rfl⟩
  | true => exact ⟨beginsToken_cons (by decide), rfl⟩

lemma gap_end (p : Text) : skipGap (.between p ['\n']) = .between (p ++ ['\n']) [] :=
  skipGap_between (b := ['\n']) (by decide) (by simp [BeginsToken]) p

lemma statement_end (p : Text) (g : Grammar) : statement g (.between p ['\n']) = none := by
  rw [statement, gap_end]
  rfl

/-- The default export is the last statement of a script. -/
lemma export_repeats (hcomponent : Readable component) (settings : Settings) (typed : Bool)
    (q : Text) (depth : Nat) :
    ∃ exported last, IsExport (q ++ ("\n\n".toList
        ++ (Source.defaultExport component settings typed ++ ['\n']))) component.name exported
      ∧ Repeats (grammar (depth + 5)).statement (.between q ("\n\n".toList
        ++ (Source.defaultExport component settings typed ++ ['\n']))) [exported] last
      ∧ (skipGap last).rest = [] := by
  have hface := faces_between (b := "\n\n".toList) (by decide)
    (export_beginsToken component settings typed ['\n']).1 q
  obtain ⟨exported, hexported, hstatement⟩ := export_written hface hcomponent (by rfl) depth
  rw [List.append_assoc] at hexported
  have hend := statement_end (q ++ "\n\n".toList ++ Source.defaultExport component settings typed)
    (grammar (depth + 4))
  refine ⟨exported, _, hexported, .step hstatement ?_ (.stop hend), ?_⟩
  · simp [Cursor.between]
  · rw [gap_end]
    rfl

/-- A statement behind blanks, and the statements that follow. -/
lemma repeats_cons {r : Reader Tree} {b w u : Text} {tree : Tree} {statements : List Tree}
    {last : Cursor} (h : r (.between p (b ++ (w ++ u))) = some (tree, .between (p ++ b ++ w) u))
    (hw : w ≠ []) (tail : Repeats r (.between (p ++ b ++ w) u) statements last) :
    Repeats r (.between p (b ++ (w ++ u))) (tree :: statements) last := by
  refine .step h ?_ tail
  have hlength := List.length_pos_of_ne_nil hw
  simp only [Cursor.between, List.length_append]
  omega

/-- The component's import and the default export, behind blanks. -/
lemma script_repeats {b : Text} (hb : ∀ c ∈ b, isGapBlank c = true)
    (hcomponent : Readable component) (settings : Settings) (typed : Bool) (q : Text)
    (depth : Nat) :
    ∃ statements last, IsScript (q ++ (b ++ (Source.importStatement component ++ ("\n\n".toList
        ++ (Source.defaultExport component settings typed ++ ['\n']))))) component.name statements
      ∧ Repeats (grammar (depth + 5)).statement (.between q (b ++ (Source.importStatement component
        ++ ("\n\n".toList ++ (Source.defaultExport component settings typed ++ ['\n'])))))
          statements last
      ∧ (skipGap last).rest = [] := by
  have hface := faces_between hb (import_beginsToken component ("\n\n".toList
    ++ (Source.defaultExport component settings typed ++ ['\n']))).1 q
  obtain ⟨imported, himported, himport⟩ := component_import hface hcomponent
    (export_beginsToken component settings typed _).2 (grammar (depth + 4))
  obtain ⟨exported, last, hexported, htail, hlast⟩ := export_repeats hcomponent settings typed
    (q ++ b ++ Source.importStatement component) depth
  simp only [List.append_assoc] at hexported
  refine ⟨[imported, exported], last, ⟨[imported], exported, rfl, ?_, hexported⟩,
    repeats_cons himport ?_ htail, hlast⟩
  · simpa using ⟨himported.kind, himported.hasFault⟩
  · unfold Source.importStatement
    simp

lemma interpreterLine_eq_none {w : Text} {c : Char} (h : Glance cur w c) :
    interpreterLine cur = none := by
  have hfirst := h.first
  have hne := Glance.ne_of_leads (d := '#') h.lead (by decide)
  unfold interpreterLine
  dsimp only
  split
  · next hrest =>
      rw [hrest] at hfirst
      exact absurd (Option.some.inj hfirst).symm hne
  · rfl

/-- The statements of the content that is written, behind blanks. -/
lemma written_repeats {b : Text} (hb : ∀ c ∈ b, isGapBlank c = true)
    (hcomponent : Readable component) (settings : Settings) (typed : Bool) (depth : Nat)
    {content : Text}
    (hcontent : content = b ++ (Source.scriptContent component settings typed ++ ['\n'])) :
    ∃ statements last, IsScript content component.name statements
      ∧ Repeats (grammar (depth + 5)).statement (.between [] content) statements last
      ∧ (skipGap last).rest = [] := by
  cases typed with
  | false =>
      have htext : content = b ++ (Source.importStatement component ++ ("\n\n".toList
          ++ (Source.defaultExport component settings false ++ ['\n']))) := by
        rw [hcontent]
        unfold Source.scriptContent
        simp
      rw [htext]
      exact script_repeats hb hcomponent settings false [] depth
  | true =>
      have htext : content = b ++ (Source.typeHelperImport ++ ("\n".toList
          ++ (Source.importStatement component ++ ("\n\n".toList
            ++ (Source.defaultExport component settings true ++ ['\n']))))) := by
        rw [hcontent]
        unfold Source.scriptContent
        simp
      have hface := faces_between hb (helper_beginsToken ("\n".toList
        ++ (Source.importStatement component ++ ("\n\n".toList
          ++ (Source.defaultExport component settings true ++ ['\n']))))) []
      obtain ⟨helper, hkind, hfault, hhelper⟩ := helper_import hface
        (import_beginsToken component _).2 (grammar (depth + 4))
      obtain ⟨statements, last, ⟨imports, exported, rfl, himports, hexported⟩, htail, hlast⟩ :=
        script_repeats (b := "\n".toList) (by decide) hcomponent settings true
          ([] ++ b ++ Source.typeHelperImport) depth
      rw [htext]
      refine ⟨helper :: (imports ++ [exported]), last, ⟨helper :: imports, exported, rfl, ?_, ?_⟩,
        repeats_cons hhelper ?_ htail, hlast⟩
      · simpa using ⟨⟨hkind, hfault⟩, himports⟩
      · simpa using hexported
      · unfold Source.typeHelperImport
        simp

/-- **The content that is written is well formed.** It consists of imports and of a default export
that lists the component. -/
lemma program_written {b : Text} (hb : ∀ c ∈ b, isGapBlank c = true)
    (hcomponent : Readable component) (settings : Settings) (typed : Bool) {content : Text}
    (hcontent : content = b ++ (Source.scriptContent component settings typed ++ ['\n'])) :
    ∃ statements, IsScript content component.name statements
      ∧ program content = some (.node .program .plain 0 content.bytes statements) := by
  obtain ⟨u, hword⟩ : ∃ u, content = b ++ ("import".toList ++ ' ' :: u) := by
    rw [hcontent]
    unfold Source.scriptContent
    cases typed with
    | false => exact ⟨_, by
        simp only [Bool.false_eq_true, if_false, List.nil_append, List.append_assoc,
          importStatement_append, List.cons_append]
        rfl⟩
    | true => exact ⟨_, by
        simp only [if_true, List.append_assoc, typeHelperImport_append, List.cons_append]
        rfl⟩
  have hface : Faces (.between [] content) ([] ++ b) ("import".toList ++ ' ' :: u) := by
    rw [hword]
    exact faces_between hb (beginsToken_cons (by decide)) []
  obtain ⟨c, hglance⟩ := hface.glance_name (by decide) (endsName_cons (by decide))
  obtain ⟨statements, last, hscript, hrepeats, hlast⟩ :=
    written_repeats hb hcomponent settings typed (4 * content.length + 3) hcontent
  have hfirst : interpreterLine ⟨content, 0⟩ = none := interpreterLine_eq_none hglance
  have hmany : Reader.many (grammar (depthBound content.length)).statement ⟨content, 0⟩
      = some (statements, last) := hrepeats.many_eq
  refine ⟨statements, hscript, ?_⟩
  simp only [program, bind_apply, optional_of_none hfirst, Option.bind_some, hmany, gap,
    Reader.check, hlast, List.isEmpty_nil, if_true, pure_apply, Option.map_some]

/-- There are no faults among such statements. -/
lemma IsScript.hasFault {content name : Text} {statements : List Tree}
    (h : IsScript content name statements) (n : Nat) :
    (Tree.node .program .plain 0 n statements).hasFault = false := by
  obtain ⟨imports, exported, rfl, himports, hexported⟩ := h
  have hany : Tree.anyFault (imports ++ [exported]) = false := by
    induction imports with
    | nil => rw [List.nil_append, Tree.anyFault, hexported.hasFault]; rfl
    | cons tree imports ih =>
        rw [List.cons_append, Tree.anyFault, (himports tree List.mem_cons_self).2,
          ih fun t ht => himports t (List.mem_cons_of_mem _ ht)]
        rfl
  rw [Tree.hasFault, hany]
  rfl

end Scripts

end Script

end ComponentFile
