import Mathlib.Tactic
import ComponentFile.Proofs.Script.Objects

/-!
Reading imports and default exports.

* `import_eq`: an import of one name on a line of its own.
* `namedImport_eq`: an import of one name in braces.
* `defaultExport_eq`: `export default` and an expression that ends its line.
* `import_statement`, `export_statement`: such imports and exports as statements.
-/

namespace ComponentFile

open Text

namespace Script

/-! ### Imports -/

section Imports

variable {cur next : Cursor} {p q e t u w s : Text} {g : Grammar}

/-- The module of an import. -/
lemma fromClause_eq (he : e = q ++ [' '] ++ "from".toList ++ [' '] ++ '\'' :: (s ++ ['\'']))
    (hs : IsQuotable s) :
    fromClause (.between q (' ' :: ("from".toList ++ ' ' :: '\'' :: (s ++ '\'' :: t))))
      = some ((Tree.leaf .string (q ++ [' '] ++ "from".toList ++ [' ']).bytes e.bytes).playing
        .source, .between e t) := by
  have hfrom : Faces (.between q (' ' :: ("from".toList ++ ' ' :: '\'' :: (s ++ '\'' :: t))))
      (q ++ [' ']) ("from".toList ++ ' ' :: '\'' :: (s ++ '\'' :: t)) :=
    faces_between (b := [' ']) (by decide) (beginsToken_cons (by decide)) q
  have hstring : Faces (.between (q ++ [' '] ++ "from".toList) (' ' :: '\'' :: (s ++ '\'' :: t)))
      (q ++ [' '] ++ "from".toList ++ [' ']) ('\'' :: (s ++ '\'' :: t)) :=
    faces_between (b := [' ']) (by decide) (beginsToken_cons (by decide)) _
  rw [fromClause, bind_apply, hfrom.word_eq (by decide) (endsName_cons (by decide)),
    Option.bind_some, bind_apply, hstring.string_eq hs, ← he]
  rfl

/-- An import whose bindings are read and whose line ends behind the module. -/
lemma importStatement_eq (h : Faces cur p ("import".toList ++ ' ' :: u))
    {c : Char} (hglance : Glance (.between (p ++ "import".toList) (' ' :: u)) w c)
    (hw : w ∉ (["type", "typeof"] : List Text)) {clause : Tree}
    (hclause : importClause (.between (p ++ "import".toList) (' ' :: u))
      = some (clause, .between q (' ' :: ("from".toList ++ ' ' :: '\'' :: (s ++ '\'' :: t)))))
    (he : e = q ++ [' '] ++ "from".toList ++ [' '] ++ '\'' :: (s ++ ['\'']))
    (hs : IsQuotable s) (ht : endsHere false false t = true) :
    importStatement g cur = some (.node .importStatement .plain p.bytes e.bytes
      [clause, (Tree.leaf .string (q ++ [' '] ++ "from".toList ++ [' ']).bytes e.bytes).playing
        .source], .between e t) := by
  have hspace : EndsName (' ' :: u) := endsName_cons (by decide)
  have hself := faces_self h.token p
  have htype : (word "type" <|> word "typeof") (.between (p ++ "import".toList) (' ' :: u))
      = none := by
    simp only [List.mem_cons, List.not_mem_nil, or_false, not_or] at hw
    rw [orElse_apply, hglance.word_eq_none (Ne.symm hw.1), hglance.word_eq_none (Ne.symm hw.2),
      Option.or_none]
  have hattributes : (do
      Reader.check (!Context.ofDeclaredType.stops ·)
      word "with"
      objectLiteral g) (.between e t) = none := by
    have hstops : Context.ofDeclaredType.stops (.between e t) = true := stops_of_endsHere rfl ht
    rw [check_bind, hstops]
    rfl
  have hend : semicolon false (.between e t) = some ((), .between e t) := by
    rw [semicolon, orElse_apply, lineEnd_of_endsHere ht, Option.some_or]
  simp only [importStatement, bind_apply, h.begin_eq, Option.bind_some,
    hself.word_eq (by decide) hspace, optional_of_none htype, orElse_apply, hclause,
    fromClause_eq he hs, pure_apply, Option.some_or]
  rw [optional_of_none hattributes]
  simp only [Option.bind_some, hend, finish]
  rfl

/-- A name as the bindings of an import. -/
lemma importClause_name (h : Faces cur p (w ++ ' ' :: ("from".toList ++ ' ' :: u)))
    (hw : IsName w) : importClause cur = some (.node .importClause .plain p.bytes (p ++ w).bytes
      [.leaf .identifier p.bytes (p ++ w).bytes],
      .between (p ++ w) (' ' :: ("from".toList ++ ' ' :: u))) := by
  have hends : EndsName (' ' :: ("from".toList ++ ' ' :: u)) := endsName_cons (by decide)
  have hself := faces_self h.token p
  have hne : w ≠ [] := by
    rintro rfl
    simp [IsName] at hw
  obtain ⟨c, hglance⟩ := hself.glance_name hw hends
  have hfrom : Faces (.between (p ++ w) (' ' :: ("from".toList ++ ' ' :: u))) (p ++ w ++ [' '])
      ("from".toList ++ ' ' :: u) :=
    faces_between (b := [' ']) (by decide) (beginsToken_cons (by decide)) _
  obtain ⟨d, hnext⟩ := hfrom.glance_name (by decide) (endsName_cons (by decide))
  have hall : namespaceImport (.between p (w ++ ' ' :: ("from".toList ++ ' ' :: u))) = none :=
    begin_sign_eq_none hglance (by decide) _
  have hnamed : namedImports (.between p (w ++ ' ' :: ("from".toList ++ ' ' :: u))) = none :=
    begin_mark_eq_none (hglance.skip.sees_mark hne (by decide)) _
  have hmore : (do mark ","; namespaceImport <|> namedImports)
      (.between (p ++ w) (' ' :: ("from".toList ++ ' ' :: u))) = none := by
    rw [bind_apply, mark_eq_none (hnext.sees_mark (by decide) (by decide)), Option.bind_none]
  simp only [importClause, bind_apply, h.begin_eq, Option.bind_some, orElse_apply, hall, hnamed,
    Option.bind_none, Option.none_or, hself.nameNode_eq hw hends]
  rw [optional_of_none hmore]
  rfl

/-- **An import on a line of its own.** -/
lemma import_eq
    (h : Faces cur p ("import".toList ++ ' ' :: (w ++ ' ' :: ("from".toList ++ ' ' :: '\''
      :: (s ++ '\'' :: t)))))
    (hw : IsName w) (hword : w ∉ (["type", "typeof"] : List Text)) (hs : IsQuotable s)
    (ht : endsHere false false t = true)
    (he : e = p ++ "import".toList ++ [' '] ++ w ++ [' '] ++ "from".toList ++ [' ']
      ++ '\'' :: (s ++ ['\''])) (g : Grammar) :
    ∃ parts : List Tree, Tree.anyFault parts = false ∧ (parts.any (·.role = .source)) = true
      ∧ importStatement g cur
        = some (.node .importStatement .plain p.bytes e.bytes parts, .between e t) := by
  have hface : Faces (.between (p ++ "import".toList) (' ' :: (w ++ ' ' :: ("from".toList ++ ' '
      :: '\'' :: (s ++ '\'' :: t))))) (p ++ "import".toList ++ [' ']) (w ++ ' ' :: ("from".toList
        ++ ' ' :: '\'' :: (s ++ '\'' :: t))) :=
    faces_between (b := [' ']) (by decide) (hw.beginsToken _) _
  obtain ⟨c, hglance⟩ := hface.glance_name hw (endsName_cons (by decide))
  exact ⟨_, rfl, rfl, importStatement_eq h hglance hword (importClause_name hface hw) he hs ht⟩

/-- One name in the braces of an import. -/
lemma importSpecifier_eq (h : Faces cur p (w ++ ' ' :: '\x7d' :: u)) (hw : IsName w)
    (hword : w ∉ (["type", "typeof"] : List Text)) :
    importSpecifier cur = some (.node .importSpecifier .plain p.bytes (p ++ w).bytes
      [(Tree.leaf .identifier p.bytes (p ++ w).bytes).playing .name],
      .between (p ++ w) (' ' :: '\x7d' :: u)) := by
  have hends : EndsName (' ' :: '\x7d' :: u) := endsName_cons (by decide)
  have hself := faces_self h.token p
  obtain ⟨c, hglance⟩ := hself.glance_name hw hends
  have hbrace : Glance (.between (p ++ w) (' ' :: '\x7d' :: u)) [] '\x7d' :=
    (faces_between (b := [' ']) (by decide) (beginsToken_cons (by decide)) _).glance_mark
      (by decide)
  have htype : (word "type" <|> word "typeof") (.between p (w ++ ' ' :: '\x7d' :: u)) = none := by
    simp only [List.mem_cons, List.not_mem_nil, or_false, not_or] at hword
    rw [orElse_apply, hglance.word_eq_none (Ne.symm hword.1),
      hglance.word_eq_none (Ne.symm hword.2), Option.or_none]
  simp only [importSpecifier, bind_apply, h.begin_eq, Option.bind_some, optional_of_none htype,
    orElse_apply, hglance.stringLiteral_eq_none, hself.nameNode_eq hw hends, Option.none_or,
    hbrace.word_eq_none (v := "as") (by decide), Option.bind_none, finish]
  rfl

/-- Braces with one name as the bindings of an import. -/
lemma importClause_named (h : Faces cur p ('\x7b' :: ' ' :: (w ++ ' ' :: '\x7d' :: u)))
    (hw : IsName w) (hword : w ∉ (["type", "typeof"] : List Text)) :
    ∃ clause : Tree, clause.hasFault = false ∧ importClause cur
      = some (clause, .between (p ++ ['\x7b'] ++ [' '] ++ w ++ [' '] ++ ['\x7d']) u) := by
  have hself := faces_self h.token p
  have hglance : Glance _ [] '\x7b' := hself.glance_mark (by decide)
  have hname : Faces (.between (p ++ ['\x7b']) (' ' :: (w ++ ' ' :: '\x7d' :: u)))
      (p ++ ['\x7b'] ++ [' ']) (w ++ ' ' :: '\x7d' :: u) :=
    faces_between (b := [' ']) (by decide) (hw.beginsToken _) _
  have hclose : Faces (.between (p ++ ['\x7b'] ++ [' '] ++ w) (' ' :: '\x7d' :: u))
      (p ++ ['\x7b'] ++ [' '] ++ w ++ [' ']) ('\x7d' :: u) :=
    faces_between (b := [' ']) (by decide) (beginsToken_cons (by decide)) _
  have hcomma : mark "," (.between (p ++ ['\x7b'] ++ [' '] ++ w) (' ' :: '\x7d' :: u)) = none :=
    mark_eq_none ((hclose.glance_mark (by decide)).sees_eq_false (by decide))
  have hmore : (do mark ","; importSpecifier)
      (.between (p ++ ['\x7b'] ++ [' '] ++ w) (' ' :: '\x7d' :: u)) = none := by
    rw [bind_apply, hcomma, Option.bind_none]
  have hspecifiers : ∃ specifiers : List Tree, Tree.anyFault specifiers = false
      ∧ commaList importSpecifier (.between (p ++ ['\x7b']) (' ' :: (w ++ ' ' :: '\x7d' :: u)))
        = some (specifiers, .between (p ++ ['\x7b'] ++ [' '] ++ w) (' ' :: '\x7d' :: u)) := by
    rw [commaList, bind_apply, importSpecifier_eq hname hw hword, Option.bind_some, bind_apply,
      many_of_none hmore, Option.bind_some, bind_apply, optional_of_none hcomma]
    exact ⟨_, rfl, rfl⟩
  obtain ⟨specifiers, hfault, hlist⟩ := hspecifiers
  have hnamed : namedImports (.between p ('\x7b' :: ' ' :: (w ++ ' ' :: '\x7d' :: u)))
      = some (.node .namedImports .plain p.bytes
        (p ++ ['\x7b'] ++ [' '] ++ w ++ [' '] ++ ['\x7d']).bytes specifiers,
        .between (p ++ ['\x7b'] ++ [' '] ++ w ++ [' '] ++ ['\x7d']) u) := by
    simp only [namedImports, bind_apply, hself.begin_eq, Option.bind_some,
      hself.mark_char (m := "\x7b") rfl, optional_of_some hlist, optional_of_none hcomma,
      hclose.mark_char (m := "\x7d") rfl, finish]
    rfl
  have hall : namespaceImport (.between p ('\x7b' :: ' ' :: (w ++ ' ' :: '\x7d' :: u))) = none :=
    begin_sign_eq_none hglance (by decide) _
  simp only [importClause, bind_apply, h.begin_eq, Option.bind_some, orElse_apply, hall,
    Option.bind_none, Option.none_or, hnamed, pure_apply, Option.some_or, finish]
  refine ⟨_, ?_, rfl⟩
  simp [Tree.hasFault, Tree.anyFault, Kind.isFault, hfault]

/-- **An import of one name in braces.** -/
lemma namedImport_eq
    (h : Faces cur p ("import".toList ++ ' ' :: '\x7b' :: ' ' :: (w ++ ' ' :: '\x7d' :: ' '
      :: ("from".toList ++ ' ' :: '\'' :: (s ++ '\'' :: t)))))
    (hw : IsName w) (hword : w ∉ (["type", "typeof"] : List Text)) (hs : IsQuotable s)
    (ht : endsHere false false t = true)
    (he : e = p ++ "import".toList ++ [' '] ++ ['\x7b'] ++ [' '] ++ w ++ [' '] ++ ['\x7d'] ++ [' ']
      ++ "from".toList ++ [' '] ++ '\'' :: (s ++ ['\''])) (g : Grammar) :
    ∃ parts : List Tree, Tree.anyFault parts = false ∧ importStatement g cur
      = some (.node .importStatement .plain p.bytes e.bytes parts, .between e t) := by
  have hface : Faces (.between (p ++ "import".toList) (' ' :: '\x7b' :: ' ' :: (w ++ ' ' :: '\x7d'
      :: ' ' :: ("from".toList ++ ' ' :: '\'' :: (s ++ '\'' :: t)))))
      (p ++ "import".toList ++ [' '])
      ('\x7b' :: ' ' :: (w ++ ' ' :: '\x7d' :: ' ' :: ("from".toList ++ ' ' :: '\''
        :: (s ++ '\'' :: t)))) :=
    faces_between (b := [' ']) (by decide) (beginsToken_cons (by decide)) _
  obtain ⟨clause, hfault, hclause⟩ := importClause_named hface hw hword
  refine ⟨_, ?_, importStatement_eq h (hface.glance_mark (by decide)) (by decide) hclause he hs ht⟩
  simp [Tree.hasFault, Tree.anyFault, Kind.isFault, Tree.leaf, Tree.playing, hfault]

end Imports

/-! ### Default exports -/

section Exports

variable {cur next : Cursor} {p q e t u w s : Text} {g : Grammar}

/-- The words that declarations begin with. -/
def declarationWords : List Text :=
  ["declare", "async", "function", "class", "abstract", "const", "enum", "let", "var", "type",
    "interface", "module", "namespace", "import"]

/-- No declaration begins with another name, or with a mark. -/
lemma declaration_eq_none {c : Char} (h : Glance cur w c) (hw : w ∉ declarationWords)
    (g : Grammar) : declaration g cur = none := by
  have hword : ∀ v ∈ declarationWords, v ≠ w := by
    rintro v hv rfl
    exact hw hv
  have honeOf : ∀ words ⊆ declarationWords, oneOf words (skipGap cur) = none :=
    fun words hwords => h.skip.oneOf_eq_none fun hmem => hw (hwords hmem)
  have hdecorators := many_of_none (decorator_eq_none h.skip g)
  have hambient : ambientDeclaration g cur = none :=
    begin_word_eq_none h (hword _ (by decide)) _
  have hfunction : functionDeclaration g cur = none := by
    simp only [functionDeclaration, bind_apply, begin_apply, Option.bind_some,
      optional_of_none (h.skip.word_eq_none (hword "async" (by decide)))]
    rw [if_neg (by simp), bind_apply, h.skip.word_eq_none (hword "function" (by decide))]
    rfl
  have hclass : classDeclaration g cur = none := by
    simp only [classDeclaration, classTail, bind_apply, begin_apply, Option.bind_some,
      hdecorators, h.skip.word_eq_none (hword "class" (by decide)), Option.bind_none]
  have habstract : abstractClass g cur = none := by
    simp only [abstractClass, bind_apply, begin_apply, Option.bind_some, hdecorators,
      h.skip.word_eq_none (hword "abstract" (by decide)), Option.bind_none]
  have henum : enumDeclaration g cur = none := by
    simp only [enumDeclaration, bind_apply, begin_apply, Option.bind_some,
      optional_of_none (h.skip.word_eq_none (hword "const" (by decide))),
      h.skip.word_eq_none (hword "enum" (by decide)), Option.bind_none]
  have hvariable : variableDeclaration g ["let", "const", "var"] cur = none := by
    simp only [variableDeclaration, bind_apply, begin_apply, Option.bind_some,
      honeOf ["let", "const", "var"] (by decide), Option.bind_none]
  have htype : typeAlias g cur = none := begin_word_eq_none h (hword _ (by decide)) _
  have hinterface : interfaceDeclaration g cur = none :=
    begin_word_eq_none h (hword _ (by decide)) _
  have hmodule : moduleDeclaration g cur = none := by
    simp only [moduleDeclaration, bind_apply, begin_apply, Option.bind_some,
      honeOf ["module", "namespace"] (by decide), Option.bind_none]
  have himport : importAlias cur = none := begin_word_eq_none h (hword _ (by decide)) _
  simp only [declaration, plainDeclaration, orElse_apply, hambient, hfunction, hclass, habstract,
    henum, hvariable, htype, hinterface, hmodule, himport, Option.or_none]

/-- No statement ends between `export` and `default`. -/
lemma check_export : Reader.check (!Context.ofStatement.stops ·)
    (.between (p ++ "export".toList) (' ' :: ("default".toList ++ ' ' :: u)))
      = some ((), .between (p ++ "export".toList) (' ' :: ("default".toList ++ ' ' :: u))) := by
  have hstops : Context.ofStatement.stops
      (.between (p ++ "export".toList) (' ' :: ("default".toList ++ ' ' :: u))) = false :=
    not_stops_of_endsHere (b := [' ']) (by decide) (beginsToken_cons (by decide)) rfl _
  rw [Reader.check, hstops]
  rfl

/-- `export default` does not export names. -/
lemma exportedNames_eq_none
    (h : Faces cur p ("export".toList ++ ' ' :: ("default".toList ++ ' ' :: u))) :
    exportedNames cur = none := by
  have hself := faces_self h.token p
  have hdefault : Faces (.between (p ++ "export".toList) (' ' :: ("default".toList ++ ' ' :: u)))
      (p ++ "export".toList ++ [' ']) ("default".toList ++ ' ' :: u) :=
    faces_between (b := [' ']) (by decide) (beginsToken_cons (by decide)) _
  obtain ⟨c, hglance⟩ := hdefault.glance_name (by decide) (endsName_cons (by decide))
  simp only [exportedNames, bind_apply, h.begin_eq, Option.bind_some,
    hself.word_eq (w := "export".toList) (by decide) (endsName_cons (by decide)), check_export,
    orElse_apply, mark_eq_none (hglance.sees_sign (m := "*") (by decide)), Option.bind_none,
    optional_of_none (hglance.word_eq_none (v := "type") (by decide)), exportClause,
    mark_eq_none (hglance.sees_mark (m := "\x7b") (by decide) (by decide)), Option.or_none]

/-- **A default export.** The expression ends its line, and no declaration begins with it. -/
lemma defaultExport_eq
    (h : Faces cur p ("export".toList ++ ' ' :: ("default".toList ++ ' ' :: u))) {c : Char}
    (hglance : Glance (.between (p ++ "export".toList ++ [' '] ++ "default".toList) (' ' :: u)) w c)
    (hw : w ∉ declarationWords) {value : Tree}
    (hvalue : g.expression .ofStatement
      (.between (p ++ "export".toList ++ [' '] ++ "default".toList) (' ' :: u))
        = some (value, next)) (hend : endsHere true false next.rest = true) :
    exportStatement g cur = some (.node .exportStatement .plain p.bytes next.offset
      [.leaf .defaultMark (p ++ "export".toList ++ [' ']).bytes
        (p ++ "export".toList ++ [' '] ++ "default".toList).bytes, value.playing .value],
        next) := by
  have hself := faces_self h.token p
  obtain ⟨d, hfirst⟩ := hself.glance_name (by decide) (endsName_cons (by decide))
  have hdefault : Faces (.between (p ++ "export".toList) (' ' :: ("default".toList ++ ' ' :: u)))
      (p ++ "export".toList ++ [' ']) ("default".toList ++ ' ' :: u) :=
    faces_between (b := [' ']) (by decide) (beginsToken_cons (by decide)) _
  have hword := faces_self hdefault.token (p ++ "export".toList ++ [' '])
  have hsemicolon : semicolon true next = some ((), next) := by
    rw [semicolon, orElse_apply, lineEnd_of_endsHere hend, Option.some_or]
  rw [exportStatement, orElse_apply, exportedNames_eq_none h, Option.none_or, orElse_apply]
  simp only [defaultExport, bind_apply, h.begin_eq, Option.bind_some,
    many_of_none (decorator_eq_none hfirst g),
    hself.word_eq (w := "export".toList) (by decide) (endsName_cons (by decide)), check_export,
    hdefault.begin_eq,
    hword.word_eq (w := "default".toList) (by decide) (endsName_cons (by decide)), finish,
    orElse_apply, declaration_eq_none hglance hw, Option.bind_none, Option.none_or, hvalue,
    hsemicolon, pure_apply]
  rfl

end Exports

/-! ### Statements -/

section Statements

variable {cur next : Cursor} {p u w : Text} {g : Grammar} {tree : Tree}

/-- The entry of a word stands where the word stands among the keys. -/
lemma find?_eq_getElem? {α : Type} (entries : List (Text × α)) (w : Text) :
    entries.find? (·.1 = w) = entries[(entries.map (·.1)).idxOf w]? := by
  induction entries with
  | nil => rfl
  | cons entry entries ih =>
      rw [List.find?_cons, List.map_cons, List.idxOf_cons, ih]
      by_cases h : entry.1 = w
      · simp [h]
      · rw [decide_eq_false h, beq_eq_false_iff_ne.mpr h, cond_false, List.getElem?_cons_succ]

/-- A statement that begins with a name is found by that name. -/
lemma statement_eq {c : Char} (h : Glance cur w c) (hw : w ≠ []) :
    (∀ entry, (wordStatements g).find? (·.1 = w) = some entry →
      statement g cur = entry.2 (skipGap cur))
    ∧ ((wordStatements g).find? (·.1 = w) = none →
      statement g cur = nameStatement g w (skipGap cur)) := by
  have hstart := h.isNameStart_of_ne_nil hw
  have hfirst := h.first
  cases hrest : (skipGap cur).rest with
  | nil => simp [hrest] at hfirst
  | cons d t =>
      obtain rfl : d = c := by simpa [hrest] using hfirst
      have hne : ∀ e, isNameStart e = false → d ≠ e := by
        rintro e he rfl
        rw [hstart] at he
        cases he
      constructor
      · intro entry hentry
        simp only [statement, hrest, if_neg (hne ';' (by decide)), if_neg (hne '\x7b' (by decide)),
          if_neg (hne '@' (by decide)), h.skip.peek, hentry]
      · intro hnone
        simp only [statement, hrest, if_neg (hne ';' (by decide)), if_neg (hne '\x7b' (by decide)),
          if_neg (hne '@' (by decide)), h.skip.peek, hnone, List.isEmpty_iff, if_neg hw]

lemma import_statement (h : Faces cur p ("import".toList ++ ' ' :: u))
    (himport : importStatement g (.between p ("import".toList ++ ' ' :: u)) = some (tree, next)) :
    statement g cur = some (tree, next) := by
  obtain ⟨c, hglance⟩ := h.glance_name (by decide) (endsName_cons (by decide))
  have hfind : (wordStatements g).find? (·.1 = "import".toList) = some ("import".toList,
      importStatement g <|> importAlias <|> expressionStatement g) := by
    have hindex : ((wordStatements g).map (·.1)).idxOf "import".toList = 19 := by
      simp only [wordStatements, List.map_cons, List.map_nil]
      decide
    rw [find?_eq_getElem?, hindex]
    rfl
  rw [(statement_eq hglance (by decide)).1 _ hfind, h.gap]
  dsimp only
  rw [orElse_apply, himport, Option.some_or]

lemma export_statement (h : Faces cur p ("export".toList ++ ' ' :: u))
    (hexport : exportStatement g (.between p ("export".toList ++ ' ' :: u)) = some (tree, next)) :
    statement g cur = some (tree, next) := by
  obtain ⟨c, hglance⟩ := h.glance_name (by decide) (endsName_cons (by decide))
  have hwords : (wordStatements g).find? (·.1 = "export".toList) = none := by
    have hindex : ((wordStatements g).map (·.1)).idxOf "export".toList = 20 := by
      simp only [wordStatements, List.map_cons, List.map_nil]
      decide
    rw [find?_eq_getElem?, hindex]
    rfl
  have hnames : (nameStatements g).find? (·.1 = "export".toList)
      = some ("export".toList, exportStatement g) := by
    have hindex : ((nameStatements g).map (·.1)).idxOf "export".toList = 5 := by
      simp only [nameStatements, List.map_cons, List.map_nil]
      decide
    rw [find?_eq_getElem?, hindex]
    rfl
  rw [(statement_eq hglance (by decide)).2 hwords, nameStatement, hnames]
  dsimp only
  rw [h.gap, orElse_apply, hexport, Option.some_or]

end Statements

end Script

end ComponentFile
