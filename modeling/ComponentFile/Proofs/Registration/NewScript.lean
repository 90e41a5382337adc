import Mathlib.Tactic
import ComponentFile.Proofs.Document.Soundness
import ComponentFile.Proofs.Document.Translation
import ComponentFile.Registration.Register

/-!
A new script in front of a document.

The block that registration writes is an opening tag, a body and a close tag (`newScriptBlock_eq`).
Its body holds no `<`, so that it is found as a script of the chosen sort
(`exists_scriptAt_newTag`), and then all elements of the old text, moved (`scan_newScriptBlock`).
-/

namespace ComponentFile

open Text Markup

namespace Source

/-- The opening tag of a new script. -/
def newTag (settings : Settings) : Text :=
  "<script".toList ++ (if settings.prefersScriptSetup then " setup".toList else [])
    ++ langAttribute settings.scriptLang ++ ">".toList

/-- The content of a new script, without the line feeds around it. -/
def newContent (component : Component) (settings : Settings) : Text :=
  if settings.prefersScriptSetup then importStatement component
  else scriptContent component settings (settings.preprocessors.script = some .ts)

/-- The body of a new script. -/
def newBody (component : Component) (settings : Settings) : Text :=
  '\n' :: (newContent component settings ++ ['\n'])

lemma newScriptBlock_eq (component : Component) (settings : Settings) :
    newScriptBlock component settings
      = newTag settings ++ (newBody component settings
        ++ ("</script>".toList ++ "\n\n".toList)) := by
  have hopen : ">\n".toList = ">".toList ++ ['\n'] := by simp
  have hclose : "\n</script>\n\n".toList
      = ['\n'] ++ ("</script>".toList ++ "\n\n".toList) := by simp
  have hsetup : "<script setup".toList = "<script".toList ++ " setup".toList := by simp
  unfold newScriptBlock newTag newBody newContent
  dsimp only
  split
  · rw [hopen, hclose, hsetup]
    simp only [List.append_assoc, List.cons_append, List.nil_append]
  · rw [hopen, hclose]
    simp only [List.append_assoc, List.cons_append, List.nil_append]

/-- The opening tag is read as that of a script of the chosen sort, with or without a language. -/
lemma read?_newTag (settings : Settings) :
    ∃ tag, OpenTag.read? (newTag settings) = some tag ∧ tag.text = newTag settings
      ∧ tag.selfClosing = false ∧ tag.name = "script".toList
      ∧ (Attribute.parse tag.rawAttributes).any (·.name = "setup".toList)
        = settings.prefersScriptSetup := by
  unfold newTag Settings.scriptLang
  cases settings.preprocessors.script with
  | none =>
      cases settings.prefersScriptSetup with
      | false =>
          exact ⟨.ofParts "script".toList [], by decide, by decide, by decide, rfl, by decide⟩
      | true =>
          exact ⟨.ofParts "script".toList " setup".toList, by decide, by decide, by decide, rfl,
            by decide⟩
  | some p =>
      cases p
      cases settings.prefersScriptSetup with
      | false =>
          exact ⟨.ofParts "script".toList " lang=\"ts\"".toList, by decide, by decide, by decide,
            rfl, by decide⟩
      | true =>
          exact ⟨.ofParts "script".toList " setup lang=\"ts\"".toList, by decide, by decide,
            by decide, rfl, by decide⟩

/-- **A script with such a tag, whose body holds no `<`.** It is found at once. -/
lemma exists_scriptAt_newTag (settings : Settings) {body : Text} (hbody : '<' ∉ body)
    (rest : Text) :
    ∃ tag, tag.text = newTag settings
      ∧ Document.isScriptOf settings.prefersScriptSetup
          (.build 0 tag ⟨body, "</script>".toList⟩) = true
      ∧ ScriptAt (newTag settings ++ (body ++ ("</script>".toList ++ rest))) [] tag
          ⟨body, "</script>".toList⟩ rest [] := by
  obtain ⟨tag, hread, htext, hself, hscript, hattr⟩ := read?_newTag settings
  have hraw : isRawText tag.name = true := by
    rw [hscript]
    decide
  have hclose : closing? tag (body ++ ("</script>".toList ++ rest))
      = some ⟨body, "</script>".toList⟩ := by
    have hend : closeTag? tag.name ("</script>".toList ++ rest) = some "</script>".toList := by
      rw [hscript]
      exact closeTag?_tag_append (s := "</script>".toList) (by decide) _
    rw [closing?, hself, if_neg (by simp), if_pos hraw,
      firstClose?_append, firstClose?_of_closeTag? hend]
    · simp [Closing.prepend]
    · intro w hw hs
      obtain ⟨c, w, rfl⟩ := List.exists_cons_of_ne_nil hw
      have hc : c ≠ '<' := by
        rintro rfl
        exact hbody (hs.subset List.mem_cons_self)
      exact closeTag?_eq_none hc _
  have helement : Construct.read (tag.text ++ (body ++ ("</script>".toList ++ rest)))
      = .element tag ⟨body, "</script>".toList⟩ := by
    obtain ⟨t, ht⟩ : ∃ t, tag.text = '<' :: 's' :: t := ⟨_, htext⟩
    refine Construct.read_eq_element.mpr ⟨?_, ?_, ?_, OpenTag.read?_append hread _, ?_⟩
    · rw [ht]
      rfl
    · rw [ht]
      rfl
    · rw [ht]
      rfl
    · rw [List.drop_left]
      exact hclose
  refine ⟨tag, htext, ?_, ⟨by rw [htext]; rfl, .nil 0 _, helement, hself, hraw⟩⟩
  have hnamed : Element.isScript (.build 0 tag ⟨body, "</script>".toList⟩) = true := by
    simp [Element.isScript, Element.isNamed, Element.build, hscript, hself, sameName_refl]
  rw [Document.isScriptOf, hnamed, Bool.true_and, beq_iff_eq]
  exact hattr

section Body

variable {component : Component} (hname : '<' ∉ component.name) (hsource : '<' ∉ component.source)

include hname

lemma lt_notMem_defaultExport (settings : Settings) (typed : Bool) :
    '<' ∉ defaultExport component settings typed := by
  have hoption : '<' ∉ componentsOption component := by
    unfold componentsOption
    simp only [List.mem_append, not_or]
    exact ⟨⟨by decide, hname⟩, by decide⟩
  have hoptions : '<' ∉ options component settings := by
    unfold options
    split
    · simp only [List.mem_append, not_or]
      exact ⟨⟨hoption, by decide⟩, by decide⟩
    · exact hoption
  unfold defaultExport
  split
  · simp only [List.mem_append, not_or]
    exact ⟨⟨⟨⟨by decide, by decide⟩, by decide⟩, hoptions⟩, by decide⟩
  · simp only [List.mem_append, not_or]
    exact ⟨⟨by decide, hoptions⟩, by decide⟩

include hsource

lemma lt_notMem_importStatement : '<' ∉ importStatement component := by
  unfold importStatement
  simp only [List.mem_append, not_or]
  exact ⟨⟨⟨⟨by decide, hname⟩, by decide⟩, hsource⟩, by decide⟩

lemma lt_notMem_scriptContent (settings : Settings) (typed : Bool) :
    '<' ∉ scriptContent component settings typed := by
  unfold scriptContent
  simp only [List.mem_append, not_or]
  refine ⟨⟨⟨?_, lt_notMem_importStatement hname hsource⟩, by decide⟩,
    lt_notMem_defaultExport hname settings typed⟩
  split <;> decide

/-- No tag begins in the body of a new script. -/
lemma lt_notMem_newBody (settings : Settings) : '<' ∉ newBody component settings := by
  unfold newBody newContent
  simp only [List.mem_cons, List.mem_append, not_or]
  refine ⟨by decide, ?_, by decide⟩
  split
  · exact lt_notMem_importStatement hname hsource
  · exact lt_notMem_scriptContent hname hsource settings _

/-- **A new script in front of a text.** The scan finds the script and then what it found in the
text. -/
lemma scan_newScriptBlock (settings : Settings) (text : Text) :
    ∃ tag, tag.text = newTag settings
      ∧ Document.isScriptOf settings.prefersScriptSetup
          (.build 0 tag ⟨newBody component settings, "</script>".toList⟩) = true
      ∧ scan (newScriptBlock component settings ++ text)
        = .build 0 tag ⟨newBody component settings, "</script>".toList⟩
          :: (scan text).map (Element.shift (newScriptBlock component settings).bytes) := by
  obtain ⟨tag, htext, hsort, hat⟩ := exists_scriptAt_newTag settings
    (lt_notMem_newBody hname hsource settings) ("\n\n".toList ++ text)
  have hwhole : newScriptBlock component settings ++ text
      = newTag settings ++ (newBody component settings
        ++ ("</script>".toList ++ ("\n\n".toList ++ text))) := by
    rw [newScriptBlock_eq]
    simp only [List.append_assoc]
  have hbytes : (newScriptBlock component settings).bytes
      = (tag.text ++ (newBody component settings ++ "</script>".toList)).bytes
        + bytes "\n\n".toList := by
    rw [newScriptBlock_eq, htext]
    simp only [bytes_append, Nat.add_assoc]
  refine ⟨tag, htext, hsort, ?_⟩
  rw [hwhole, hat.scan_eq, List.nil_append, scanFrom_text _ (by decide), List.nil_append, hbytes,
    ← Nat.add_zero (_ + bytes "\n\n".toList), scanFrom_shift]
  rfl

end Body

end Source

end ComponentFile
