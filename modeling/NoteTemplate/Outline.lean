import NoteTemplate.Text.Basic

namespace NoteTemplate

inductive Outline where
  | leaf (text : Text)
  | labelled (label : Text) (item : Outline)
  | group (opening : Text) (items : List Outline) (closing : Text)

structure OutlineStyle where
  indent : Nat
  /-- The last item of a group has a comma too. -/
  trailingComma : Bool

mutual

/-- `margin` is the margin of the line on which the outline starts. -/
def Outline.render (style : OutlineStyle) (margin : Text) : Outline → Text
  | .leaf text => text
  | .labelled label item => label ++ item.render style margin
  | .group opening [] closing => opening ++ closing
  | .group opening (item :: items) closing =>
    opening ++ '\n' ::
      Outline.renderItems style (margin ++ List.replicate style.indent ' ') (item :: items) ++
      margin ++ closing

def Outline.renderItems (style : OutlineStyle) (margin : Text) : List Outline → Text
  | [] => []
  | [item] =>
    margin ++ item.render style margin ++ (if style.trailingComma then [','] else []) ++ ['\n']
  | item :: items =>
    margin ++ item.render style margin ++ ',' :: '\n' :: Outline.renderItems style margin items

end

end NoteTemplate
