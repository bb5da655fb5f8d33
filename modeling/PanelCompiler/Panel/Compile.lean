import PanelCompiler.Options
import PanelCompiler.Panel.Formatter
import PanelCompiler.Schema.Reading
import PanelCompiler.Style.Responsive
import PanelCompiler.Walk.Transform

namespace PanelCompiler

/-- The result of a compilation. -/
structure Output where
  rootName : String
  panels : List Panel
  dataMethods : List String
  skipped : List SkippedNode

def Output.panel? (output : Output) (name : String) : Option Panel :=
  output.panels.find? fun panel => panel.name == name

namespace Panel

def indexName : String := "index.tsx"

def styleName : String := "style.js"

def stylesheetName : String := "style.less"

def responsiveName : String := "style.responsive.js"

/-- The source of a utility: strings stand for themselves. -/
def utilSource : Json → String
  | .string source => source
  | other => other.serialize

/-- The empty interface of a component's props. -/
def propsInterface (component : Component) : String :=
  "interface " ++ component.name ++ "Props \x7b\x7d;"

def exportLine (name : String) : String :=
  "export default " ++ name ++ ";"

/-- The lines of the module. -/
def indexLines (context : Context) : List String :=
  ["'use strict';", "", "import React, \x7b useState, useEffect \x7d from 'react';"] ++
    context.imports ++ ["import styles from './style.less';"] ++
    context.components.map propsInterface ++ context.utils ++
    context.components.map Component.source ++ [exportLine context.rootName]

def indexSource (context : Context) : String :=
  "\n".intercalate (indexLines context)

/-- A module that exports the styles. -/
def styleSource (styles : StyleRegistry) : String :=
  "export default " ++ styles.toSource

/-- The four panels before they are formatted. -/
def raw (context : Context) (viewportWidth : Float) : List Panel :=
  [⟨indexName, indexSource context, .source⟩,
    ⟨styleName, styleSource context.styles, .source⟩,
    ⟨stylesheetName, context.stylesheetText, .nestedStylesheet⟩,
    ⟨responsiveName, styleSource (context.styles.responsive viewportWidth), .source⟩]

/-- The panels that a formatter accepts, formatted, and those that it refuses. -/
def partitionFormatted (format : Formatter) : List Panel → List Panel × List PanelFailure
  | [] => ([], [])
  | panel :: rest =>
    let (formatted, failures) := partitionFormatted format rest
    match format panel.content panel.dialect with
    | .ok content => ({ panel with content := content } :: formatted, failures)
    | .error diagnostic => (formatted, ⟨panel.name, diagnostic⟩ :: failures)

/-- All panels formatted, or every refusal at once. -/
def formatAll (format : Formatter) (panels : List Panel) : Except CompileError (List Panel) :=
  match partitionFormatted format panels with
  | (formatted, []) => .ok formatted
  | (formatted, failures) => .error (.rejectedPanels failures formatted)

end Panel

/-- A name, unless it is empty. -/
def nonEmpty? (name? : Option String) : Option String :=
  match name? with
  | some name => if name = "" then none else some name
  | none => none

/-- The name of the root component: from the options, then from the schema, then the root's kind
made unique by a stamp. -/
def resolveRootName (schema : Node) (options : Options) (stamp : String) : String :=
  match nonEmpty? options.rootName with
  | some name => name
  | none =>
    match nonEmpty? schema.rootName with
    | some name => name
    | none => schema.kindName ++ stamp

/-- The context in which the walk begins. -/
def Context.forCompilation (rootName : String) (options : Options) : Context :=
  options.utils.foldl (fun context (name, value) => context.addUtil name (Panel.utilSource value))
    { Context.fresh rootName with skipUnsupported := options.skipUnsupported }

/-- Compile a component tree. -/
def compile (schema : Node) (options : Options) (format : Formatter) (stamp : String) :
    Except CompileError Output := do
  let rootName := resolveRootName schema options stamp
  let (result, context) :=
    (Walk.transformSchema schema).run (Context.forCompilation rootName options)
  result
  let panels ← Panel.formatAll format (Panel.raw context options.viewportWidth)
  return { rootName := rootName, panels := panels, dataMethods := context.dataMethods,
           skipped := context.skipped }

/-- Read a text as JSON of some type. -/
def readInput {α : Type} (read : Json.Medium → Json.Document → Json.Reader α)
    (text : String) : Except CompileError α :=
  match Json.Document.readText read text.toList with
  | .ok value => .ok value
  | .error error => .error (.unreadableInput error)

/-- Compile a component tree given as JSON text. Missing or blank options are the default ones. -/
def compileText (schemaText : String) (optionsText : Option String) (format : Formatter)
    (stamp : String) : Except CompileError Output := do
  let schema ← readInput Node.read schemaText
  let options ← match optionsText with
    | some text =>
      if Text.trimmed text = "" then .ok Options.default else readInput Options.read text
    | none => .ok Options.default
  compile schema options format stamp

end PanelCompiler
