namespace Stylesheet.Vocabulary

def boxWords : List String := [
  "width", "height", "min-width", "min-height", "max-width", "max-height", "box-sizing",
  "margin", "margin-top", "margin-right", "margin-bottom", "margin-left", "margin-inline",
  "margin-block", "padding", "padding-top", "padding-right", "padding-bottom", "padding-left",
  "padding-inline", "padding-block", "aspect-ratio"]

def borderWords : List String := [
  "border", "border-top", "border-right", "border-bottom", "border-left", "border-width",
  "border-style", "border-color", "border-radius", "border-top-left-radius",
  "border-top-right-radius", "border-bottom-right-radius", "border-bottom-left-radius",
  "border-collapse", "border-spacing", "outline", "outline-width", "outline-style",
  "outline-color", "outline-offset"]

def layoutWords : List String := [
  "display", "position", "top", "right", "bottom", "left", "inset", "z-index", "float", "clear",
  "overflow", "overflow-x", "overflow-y", "visibility", "vertical-align", "object-fit",
  "object-position"]

def flexWords : List String := [
  "flex", "flex-direction", "flex-wrap", "flex-flow", "flex-grow", "flex-shrink", "flex-basis",
  "justify-content", "justify-items", "justify-self", "align-content", "align-items",
  "align-self", "place-content", "place-items", "place-self", "order", "gap", "row-gap",
  "column-gap"]

def gridWords : List String := [
  "grid", "grid-area", "grid-template", "grid-template-columns", "grid-template-rows",
  "grid-template-areas", "grid-auto-columns", "grid-auto-rows", "grid-auto-flow", "grid-column",
  "grid-column-start", "grid-column-end", "grid-row", "grid-row-start", "grid-row-end"]

def typeWords : List String := [
  "color", "font", "font-family", "font-size", "font-style", "font-weight", "font-variant",
  "font-display", "line-height", "letter-spacing", "word-spacing", "word-break", "word-wrap",
  "overflow-wrap", "white-space", "text-align", "text-decoration", "text-decoration-color",
  "text-decoration-line", "text-decoration-style", "text-indent", "text-overflow", "text-shadow",
  "text-transform", "direction", "hyphens", "src"]

def backgroundWords : List String := [
  "background", "background-color", "background-image", "background-position",
  "background-repeat", "background-size", "background-attachment", "background-clip",
  "background-origin", "background-blend-mode"]

def listWords : List String := [
  "list-style", "list-style-type", "list-style-position", "list-style-image", "table-layout",
  "caption-side", "empty-cells"]

def contentWords : List String := [
  "content", "quotes", "counter-reset", "counter-increment"]

def effectWords : List String := [
  "opacity", "box-shadow", "filter", "backdrop-filter", "mix-blend-mode", "clip-path", "mask"]

def motionWords : List String := [
  "transform", "transform-origin", "transform-style", "perspective", "transition",
  "transition-property", "transition-duration", "transition-timing-function", "transition-delay",
  "animation", "animation-name", "animation-duration", "animation-timing-function",
  "animation-delay", "animation-iteration-count", "animation-direction", "animation-fill-mode",
  "animation-play-state", "will-change"]

def interactionWords : List String := [
  "cursor", "pointer-events", "user-select", "resize", "scroll-behavior", "touch-action",
  "appearance", "accent-color", "caret-color"]

def columnWords : List String := [
  "columns", "column-count", "column-width", "column-rule", "contain", "container-type",
  "container-name"]

def directiveWords : List String := [
  "@media", "@keyframes", "@font-face", "@supports", "@page", "@layer", "@container",
  "@document", "@counter-style", "@font-feature-values", "@property", "@scope",
  "@starting-style", "@at-root", "@mixin", "@function", "@if", "@else", "@for", "@each",
  "@while"]

def words : List String :=
  boxWords ++ borderWords ++ layoutWords ++ flexWords ++ gridWords ++ typeWords ++
  backgroundWords ++ listWords ++ contentWords ++ effectWords ++
  motionWords ++ interactionWords ++ columnWords ++ directiveWords

end Stylesheet.Vocabulary
