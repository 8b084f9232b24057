import VisualNovel.Stage.Button
import VisualNovel.Stage.Fade

namespace VisualNovel

structure TextStyle where
  fillColor : Option String := none
  fillAlpha : Option Float32 := none
deriving Repr, BEq

structure WebLinkView where
  url : String
  text : String
  target : String
deriving Repr, BEq, DecidableEq

inductive Command where
  | setBackground (key : String) (position : Position) (fade : Fade)
  | clearBackground
  | setFrame (key : String) (position : Position)
  | addForeground (key : String) (position : Position)
  | clearForeground
  | setActorName (name : String) (style : TextStyle)
  | clearActorName
  | setDialogText (text : String) (style : TextStyle)
  | clearDialogText
  | addButton (button : Button)
  | setButtonState (id : Nat) (state : ButtonState)
  | clearButtons
  | playSound (key : String) (looping : Bool)
  | stopSound (key : String)
  | showWebLink (link : WebLinkView)
  | hideWebLink
  | setAdvanceEnabled (enabled : Bool)
deriving Repr, BEq

end VisualNovel
