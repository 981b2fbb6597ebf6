import CanvasExport.Json.Token
/-!
# JSON trees with their faults

The tokens of a text are put together to a `Tree`, also where the text is faulty: the containers that
are open at a fault are closed there, and their `Stop` says how they end.  A reader that walks a tree
in order therefore meets the contents of the text in reading order and the fault where it stands, and
may refuse a value before it gets there.
-/

namespace CanvasExport.Json

/-! ## Trees -/

/-- How the contents of a container end. -/
inductive Stop
  /-- With the closing bracket. -/
  | closed
  /-- With a fault inside the container; `afterComma` where it stands directly behind a comma. -/
  | cut (afterComma : Bool) (fault : Fault)
  deriving DecidableEq

/-- The fault in a container that ends so. -/
def Stop.fault? : Stop → Option Fault
  | .closed => none
  | .cut _ fault => some fault

/-- A value of a text. -/
inductive Tree
  | null
  | bool (value : Bool)
  /-- A number as it is written. -/
  | number (literal : List Char)
  | string (content : Quoted)
  | array (items : List Tree) (stop : Stop)
  | object (members : List (Quoted × Tree)) (stop : Stop)
  /-- A fault in the place of a value. -/
  | broken (fault : Fault)

/-- The fault in a value.  An open container ends with the fault that stands in it at any depth. -/
def Tree.fault? : Tree → Option Fault
  | .null | .bool _ | .number _ => none
  | .string content => content.fault
  | .array _ stop | .object _ stop => stop.fault?
  | .broken fault => some fault

/-! ## Open containers -/

/-- A container around the value that is being read; its contents so far are kept in reverse. -/
inductive Frame
  | array (items : List Tree)
  | object (members : List (Quoted × Tree)) (key : Quoted)

/-- The place between two tokens, inside the innermost open container, whose contents so far are kept
in reverse. -/
inductive Place
  /-- Where a value must come. -/
  | value
  /-- Behind the opening bracket or a comma of an array. -/
  | item (items : List Tree)
  /-- Behind the opening bracket or a comma of an object. -/
  | key (members : List (Quoted × Tree))
  /-- Behind a key. -/
  | colon (members : List (Quoted × Tree)) (key : Quoted)
  /-- Behind an item. -/
  | afterItem (items : List Tree)
  /-- Behind the value of a member. -/
  | afterMember (members : List (Quoted × Tree))

/-- What a token leads to. -/
inductive Move
  /-- The outermost value is complete. -/
  | done (tree : Tree)
  /-- The reading goes on at a place inside of containers. -/
  | go (place : Place) (frames : List Frame)

/-- The outermost value around a faulty value. -/
def abandon (fault : Fault) : Tree → List Frame → Tree
  | t, [] => t
  | t, .array items :: frames => abandon fault (.array (t :: items).reverse (.cut false fault)) frames
  | t, .object members key :: frames =>
      abandon fault (.object ((key, t) :: members).reverse (.cut false fault)) frames

/-- The outermost value of a text that goes wrong at a place. -/
def interrupt (fault : Fault) (frames : List Frame) : Place → Tree
  | .value => abandon fault (.broken fault) frames
  | .item items => abandon fault (.array items.reverse (.cut (!items.isEmpty) fault)) frames
  | .key members => abandon fault (.object members.reverse (.cut (!members.isEmpty) fault)) frames
  | .colon members key =>
      abandon fault (.object ((key, .broken fault) :: members).reverse (.cut false fault)) frames
  | .afterItem items => abandon fault (.array items.reverse (.cut false fault)) frames
  | .afterMember members => abandon fault (.object members.reverse (.cut false fault)) frames

/-- A complete value is put into the container around it. -/
def settle (t : Tree) : List Frame → Move
  | [] => .done t
  | .array items :: frames => .go (.afterItem (t :: items)) frames
  | .object members key :: frames => .go (.afterMember ((key, t) :: members)) frames

/-- A token where a value must come. -/
def beginValue (frames : List Frame) : Token → Move
  | .openArray => .go (.item []) frames
  | .openObject => .go (.key []) frames
  | .null => settle .null frames
  | .bool b => settle (.bool b) frames
  | .number literal => settle (.number literal) frames
  | .string content =>
      match content.fault with
      | none => settle (.string content) frames
      | some fault => .done (abandon fault (.string content) frames)
  | .broken fault => .done (abandon fault (.broken fault) frames)
  | .closeArray | .closeObject | .comma | .colon =>
      .done (abandon .malformed (.broken .malformed) frames)

/-- What a token at a place leads to. -/
def Place.move (frames : List Frame) (place : Place) (token : Token) : Move :=
  match place with
  | .value => beginValue frames token
  | .item items =>
      if token = .closeArray then
        if items.isEmpty then settle (.array [] .closed) frames
        else .done (interrupt .malformed frames place)
      else beginValue (.array items :: frames) token
  | .key members =>
      match token with
      | .string name =>
          match name.fault with
          | none => .go (.colon members name) frames
          | some fault => .done (interrupt fault frames (.colon members name))
      | .closeObject =>
          if members.isEmpty then settle (.object [] .closed) frames
          else .done (interrupt .malformed frames place)
      | _ => .done (interrupt .malformed frames place)
  | .colon members name =>
      match token with
      | .colon => .go .value (.object members name :: frames)
      | _ => .done (interrupt .malformed frames place)
  | .afterItem items =>
      match token with
      | .comma => .go (.item items) frames
      | .closeArray => settle (.array items.reverse .closed) frames
      | _ => .done (interrupt .malformed frames place)
  | .afterMember members =>
      match token with
      | .comma => .go (.key members) frames
      | .closeObject => settle (.object members.reverse .closed) frames
      | _ => .done (interrupt .malformed frames place)

/-! ## The tree of a text -/

/-- The outermost value from a place on, and the tokens behind it. -/
def assemble (place : Place) (frames : List Frame) : List Token → Tree × List Token
  | [] => (interrupt .ended frames place, [])
  | token :: tokens =>
      match place.move frames token with
      | .done tree => (tree, tokens)
      | .go place frames => assemble place frames tokens

/-- The value that a text begins with, and the tokens behind it. -/
def treeOf (text : List Char) : Tree × List Token := assemble .value [] (tokensOf text)

end CanvasExport.Json
