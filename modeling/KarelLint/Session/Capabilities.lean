import KarelLint.Session.Completion

/-! What an editor can do, as it declares it when a session starts. A declaration is a record
of optional groups, and each group is a record again. The server acts on three of the flags,
but a declaration is accepted only if everything in it has its form. -/

set_option autoImplicit false

namespace KarelLint.Session.Capabilities

open KarelLint.Json (Field)

/-- A flag, which may be missing. -/
def flag (name : String) : Field :=
  .optional name Json.bool?

/-- A record of which all fields are flags. -/
def flags? (names : List String) : Json → Option Json.Members :=
  Json.checked? (names.map flag)

/-- A feature that can be switched on and off during a session. -/
def switched? : Json → Option Json.Members :=
  flags? ["dynamicRegistration"]

/-- A feature whose results can be asked for anew. -/
def refreshed? : Json → Option Json.Members :=
  flags? ["refreshSupport"]

/-- The numbers that an editor knows for a kind of thing. -/
def numbers : Field :=
  .required "valueSet" (Json.list? Json.int32?)

/-- The kinds of things that an editor knows. -/
def kinds (name : String) : Field :=
  .optional name (Json.checked? [.optional "valueSet" (Json.list? Json.int32?)])

/-- The tags that an editor knows. A flag stands for none that it names. -/
def tags : Field :=
  .optional "tagSupport" (Json.either? Json.bool? (Json.checked? [numbers]))

/-- The properties that an editor asks for later. -/
def resolved : Field :=
  .optional "resolveSupport" (Json.checked? [.required "properties" (Json.list? Json.str?)])

/-- The forms of text that an editor shows, the best one first. -/
def formats (name : String) : Field :=
  .optional name (Json.list? Markup.ofJson?)

/-! ## The workspace -/

/-- How an editor changes several files at once. -/
def workspaceEdit : List Field :=
  [flag "documentChanges",
    .optional "resourceOperations" (Json.list? (Json.oneOf? ["create", "rename", "delete"])),
    .optional "failureHandling"
      (Json.oneOf? ["abort", "transactional", "textOnlyTransactional", "undo"]),
    flag "normalizesLineEndings",
    .optional "changeAnnotationSupport" (flags? ["groupsOnLabel"])]

/-- What an editor can do with a workspace. -/
def workspace : List Field :=
  [flag "applyEdit",
    .optional "workspaceEdit" (Json.checked? workspaceEdit),
    .optional "didChangeConfiguration" switched?,
    .optional "didChangeWatchedFiles" (flags? ["dynamicRegistration", "relativePatternSupport"]),
    .optional "symbol"
      (Json.checked? [flag "dynamicRegistration", kinds "symbolKind", tags, resolved]),
    .optional "executeCommand" switched?,
    flag "workspaceFolders",
    flag "configuration",
    .optional "semanticTokens" refreshed?,
    .optional "codeLens" refreshed?,
    .optional "fileOperations"
      (flags? ["dynamicRegistration", "didCreate", "willCreate", "didRename", "willRename",
        "didDelete", "willDelete"]),
    .optional "inlineValue" refreshed?,
    .optional "inlayHint" refreshed?,
    .optional "diagnostic" refreshed?]

/-! ## Documents -/

/-- What an editor can do with an offer to complete a word. -/
def completionItem : List Field :=
  [flag "snippetSupport",
    flag "commitCharactersSupport",
    formats "documentationFormat",
    flag "deprecatedSupport",
    flag "preselectSupport",
    tags,
    flag "insertReplaceSupport",
    resolved,
    .optional "insertTextModeSupport" (Json.checked? [numbers]),
    flag "labelDetailsSupport"]

/-- What an editor can do with offers to complete a word. -/
def completion : List Field :=
  [flag "dynamicRegistration",
    .optional "completionItem" (Json.checked? completionItem),
    kinds "completionItemKind",
    flag "contextSupport",
    .optional "insertTextMode" Json.int32?,
    .optional "completionList"
      (Json.checked? [.optional "itemDefaults" (Json.list? Json.str?)])]

/-- What an editor shows of the parameters of a call. -/
def signatureInformation : List Field :=
  [formats "documentationFormat",
    .optional "parameterInformation" (flags? ["labelOffsetSupport"]),
    flag "activeParameterSupport"]

/-- The kinds of actions that an editor knows. -/
def actionKinds? : Json → Option Json.Members :=
  Json.checked? [.required "codeActionKind"
    (Json.checked? [.required "valueSet" (Json.list? Json.str?)])]

/-- What an editor can do with actions on a program. -/
def codeAction : List Field :=
  [flag "dynamicRegistration",
    .optional "codeActionLiteralSupport" actionKinds?,
    flag "isPreferredSupport",
    flag "disabledSupport",
    flag "dataSupport",
    resolved,
    flag "honorsChangeAnnotations"]

/-- What an editor can do with the problems of a document. -/
def publishDiagnostics : List Field :=
  [flag "relatedInformation", tags, flag "versionSupport", flag "codeDescriptionSupport",
    flag "dataSupport"]

/-- What an editor can do with parts of a document that can be hidden. -/
def foldingRange : List Field :=
  [flag "dynamicRegistration",
    .optional "rangeLimit" Json.nat32?,
    flag "lineFoldingOnly",
    .optional "foldingRangeKind" (Json.checked? [.optional "valueSet"
      (Json.list? (Json.oneOf? ["comment", "imports", "region"]))]),
    .optional "foldingRange" (flags? ["collapsedText"])]

/-- How an editor asks for the meaning of the words of a whole document: not at all, in full,
or by what has changed. -/
def wholeTokens? : Json → Option (Bool ⊕ Option Bool) :=
  Json.either? Json.bool? fun value => value.object?.bind (Json.optional? "delta" Json.bool?)

/-- What an editor can do with the meaning of words. -/
def semanticTokens : List Field :=
  [flag "dynamicRegistration",
    .required "requests" (Json.checked? [flag "range", .optional "full" wholeTokens?]),
    .required "tokenTypes" (Json.list? Json.str?),
    .required "tokenModifiers" (Json.list? Json.str?),
    .required "formats" (Json.list? Json.str?),
    flag "overlappingTokenSupport",
    flag "multilineTokenSupport",
    flag "serverCancelSupport",
    flag "augmentsSyntaxTokens"]

/-- A feature that leads to another place in the program. -/
def jump? : Json → Option Json.Members :=
  flags? ["dynamicRegistration", "linkSupport"]

/-- What an editor can do with a document. -/
def textDocument : List Field :=
  [.optional "synchronization"
      (flags? ["dynamicRegistration", "willSave", "willSaveWaitUntil", "didSave"]),
    .optional "completion" (Json.checked? completion),
    .optional "hover" (Json.checked? [flag "dynamicRegistration", formats "contentFormat"]),
    .optional "signatureHelp" (Json.checked? [flag "dynamicRegistration",
      .optional "signatureInformation" (Json.checked? signatureInformation),
      flag "contextSupport"]),
    .optional "references" switched?,
    .optional "documentHighlight" switched?,
    .optional "documentSymbol" (Json.checkedWith? [flag "dynamicRegistration",
      kinds "symbolKind", flag "hierarchicalDocumentSymbolSupport"] [tags]),
    .optional "formatting" switched?,
    .optional "rangeFormatting" switched?,
    .optional "onTypeFormatting" switched?,
    .optional "declaration" jump?,
    .optional "definition" jump?,
    .optional "typeDefinition" jump?,
    .optional "implementation" jump?,
    .optional "codeAction" (Json.checked? codeAction),
    .optional "codeLens" switched?,
    .optional "documentLink" (flags? ["dynamicRegistration", "tooltipSupport"]),
    .optional "colorProvider" switched?,
    .optional "rename" (Json.checked? [flag "dynamicRegistration", flag "prepareSupport",
      .optional "prepareSupportDefaultBehavior" Json.int32?, flag "honorsChangeAnnotations"]),
    .optional "publishDiagnostics" (Json.checked? publishDiagnostics),
    .optional "foldingRange" (Json.checked? foldingRange),
    .optional "selectionRange" switched?,
    .optional "linkedEditingRange" switched?,
    .optional "callHierarchy" switched?,
    .optional "semanticTokens" (Json.checked? semanticTokens),
    .optional "moniker" switched?,
    .optional "typeHierarchy" switched?,
    .optional "inlineValue" switched?,
    .optional "inlayHint" (Json.checked? [flag "dynamicRegistration", resolved]),
    .optional "diagnostic" (flags? ["dynamicRegistration", "relatedDocumentSupport"])]

/-! ## The editor itself -/

/-- What an editor can do with notebooks. -/
def notebookDocument : List Field :=
  [.required "synchronization" (flags? ["dynamicRegistration", "executionSummaryReport"])]

/-- What an editor can do with its window. -/
def window : List Field :=
  [flag "workDoneProgress",
    .optional "showMessage" (Json.checked? [.optional "messageActionItem"
      (flags? ["additionalPropertiesSupport"])]),
    .optional "showDocument" (Json.checked? [.required "support" Json.bool?])]

/-- What holds for everything that an editor does. -/
def general : List Field :=
  [.optional "regularExpressions" (Json.checked? [.required "engine" Json.str?,
      .optional "version" Json.str?]),
    .optional "markdown" (Json.checked? [.required "parser" Json.str?,
      .optional "version" Json.str?, .optional "allowedTags" (Json.list? Json.str?)]),
    .optional "staleRequestSupport" (Json.checked? [.required "cancel" Json.bool?,
      .required "retryOnContentModified" (Json.list? Json.str?)]),
    .optional "positionEncodings" (Json.list? Json.str?)]

/-- Everything that an editor declares. -/
def all : List Field :=
  [.optional "workspace" (Json.checked? workspace),
    .optional "textDocument" (Json.checked? textDocument),
    .optional "notebookDocument" (Json.checked? notebookDocument),
    .optional "window" (Json.checked? window),
    .optional "general" (Json.checked? general),
    .optional "experimental" some]

end KarelLint.Session.Capabilities
