import ComponentFile.Component

/-!
Authoring preferences: which component API new code targets, whether script setup is preferred, and
the preprocessors of newly written blocks.
-/

namespace ComponentFile

/-- The component API that new code targets. -/
inductive ApiStyle where
  /-- The Composition API. -/
  | composition
  /-- The Options API. -/
  | options
  deriving DecidableEq, Repr

/-- The name of an API. -/
def ApiStyle.name : ApiStyle → Text
  | .composition => "Composition API"
  | .options => "Options API"

/-- The API of a name. -/
def ApiStyle.ofName? (name : Text) : Option ApiStyle :=
  [.composition, .options].find? (·.name = name)

/-- A preprocessor of scripts. -/
inductive ScriptPreprocessor where
  /-- Typed scripts. -/
  | ts
  deriving DecidableEq, Repr

/-- A preprocessor of templates. -/
inductive TemplatePreprocessor where
  /-- Indented templates. -/
  | pug
  deriving DecidableEq, Repr

/-- A preprocessor of styles. -/
inductive StylePreprocessor where
  /-- Less. -/
  | less
  /-- PostCSS. -/
  | postcss
  /-- Sass, the indented form. -/
  | sass
  /-- Sass, the form with braces. -/
  | scss
  /-- Stylus. -/
  | stylus
  deriving DecidableEq, Repr

/-- The name of a script preprocessor. -/
def ScriptPreprocessor.name : ScriptPreprocessor → Text
  | .ts => "ts"

/-- The name of a template preprocessor. -/
def TemplatePreprocessor.name : TemplatePreprocessor → Text
  | .pug => "pug"

/-- The name of a style preprocessor. -/
def StylePreprocessor.name : StylePreprocessor → Text
  | .less => "less"
  | .postcss => "postcss"
  | .sass => "sass"
  | .scss => "scss"
  | .stylus => "stylus"

/-- The script preprocessor of a name. -/
def ScriptPreprocessor.ofName? (name : Text) : Option ScriptPreprocessor :=
  [.ts].find? (·.name = name)

/-- The template preprocessor of a name. -/
def TemplatePreprocessor.ofName? (name : Text) : Option TemplatePreprocessor :=
  [.pug].find? (·.name = name)

/-- The style preprocessor of a name. -/
def StylePreprocessor.ofName? (name : Text) : Option StylePreprocessor :=
  [.less, .postcss, .sass, .scss, .stylus].find? (·.name = name)

/-- The preprocessors of newly written blocks. -/
structure Preprocessors where
  /-- The preprocessor of scripts. -/
  script : Option ScriptPreprocessor := none
  /-- The preprocessor of templates. -/
  template : Option TemplatePreprocessor := none
  /-- The preprocessor of styles. -/
  style : Option StylePreprocessor := none
  deriving DecidableEq, Repr

/-- Authoring preferences. -/
structure Settings where
  /-- The API that new code targets. -/
  api : ApiStyle := .composition
  /-- Whether script setup may be used. -/
  useScriptSetup : Bool := true
  /-- The preprocessors of new blocks. -/
  preprocessors : Preprocessors := {}
  deriving DecidableEq, Repr

/-- Whether new scripts are written as script setup. -/
def Settings.prefersScriptSetup (settings : Settings) : Bool :=
  settings.api = .composition && settings.useScriptSetup

/-- The language of new scripts. -/
def Settings.scriptLang (settings : Settings) : Option Text :=
  settings.preprocessors.script.map ScriptPreprocessor.name

/-- The language of new templates. -/
def Settings.templateLang (settings : Settings) : Option Text :=
  settings.preprocessors.template.map TemplatePreprocessor.name

/-- The language of new styles. -/
def Settings.styleLang (settings : Settings) : Option Text :=
  settings.preprocessors.style.map StylePreprocessor.name

/-- Everything that a client configures. -/
structure Configuration where
  /-- The authoring preferences. -/
  settings : Settings := {}
  /-- The components on offer. -/
  components : List Component := []
  deriving DecidableEq, Repr

end ComponentFile
