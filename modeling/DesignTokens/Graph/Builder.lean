import DesignTokens.Graph.Basic

namespace DesignTokens.TokenGraph

def addCollection (g : TokenGraph) (id name : String) (modes : List Mode) : TokenGraph :=
  { g with
    collections := g.collections.put id
      { id, name, modes, defaultMode := (modes.head?.map Mode.id).getD "", remote := false,
        members := [], extra := .empty } }

def modifyCollection (g : TokenGraph) (id : String) (change : Collection → Collection) :
    TokenGraph :=
  { g with collections := g.collections.modify id change }

def setDefaultMode (g : TokenGraph) (id mode : String) : TokenGraph :=
  g.modifyCollection id fun c => { c with defaultMode := mode }

def markRemoteCollection (g : TokenGraph) (id : String) : TokenGraph :=
  g.modifyCollection id fun c => { c with remote := true }

def addMember (g : TokenGraph) (collection id : String) : TokenGraph :=
  g.modifyCollection collection fun c => { c with members := c.members ++ [id] }

def addVariable (g : TokenGraph) (collection id name : String)
    (values : List (String × Option TokenValue)) : TokenGraph :=
  let g := g.addMember collection id
  { g with
    tokens := g.tokens.put id
      { id, name, collection, values := .ofList values, remote := false, extra := .empty } }

def markRemoteVariable (g : TokenGraph) (id : String) : TokenGraph :=
  { g with tokens := g.tokens.modify id fun v => { v with remote := true } }

def color (red green blue : Float) (alpha : Option Float) : Option TokenValue :=
  some (.concrete (.color ⟨red, green, blue, alpha⟩))

def brand : TokenGraph :=
  (empty.addCollection "VariableCollectionId:brand" "Brand" [⟨"1:0", "default"⟩]).addVariable
    "VariableCollectionId:brand" "VariableID:primary" "primary" [("1:0", color 0 0 1 none)]

def themed : TokenGraph :=
  let number (x : Float) : Option TokenValue := some (.concrete (.number x))
  let primitive := (((empty.addCollection "c:primitive" "Primitive" [⟨"p:0", "Value"⟩]).addVariable
      "c:primitive" "v:blue" "color/blue/500" [("p:0", color 0 0 1 none)]).addVariable
      "c:primitive" "v:space" "space/4" [("p:0", number 16)]).addVariable
      "c:primitive" "v:step" "100" [("p:0", number 100)]
  ((primitive.addCollection "c:semantic" "Semantic Color"
      [⟨"s:light", "Light"⟩, ⟨"s:dark", "Dark"⟩]).addVariable
      "c:semantic" "v:accent" "accent"
        [("s:light", some (.aliasOf "v:blue")), ("s:dark", color 1 1 1 (some 0.5))]).addVariable
      "c:semantic" "v:label" "label/font"
        [("s:light", some (.concrete (.text "Inter"))), ("s:dark", none)]

end DesignTokens.TokenGraph
