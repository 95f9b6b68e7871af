import Blueprint.Graph.Edge
import Blueprint.Terminal.Block

/-!
# Output of inspections

How many blocks of each kind a graph has, and its relationships by the names of their ends.
-/

namespace Blueprint.Terminal

def endName (g : Graph) (id : NodeId) : String :=
  match g.name? id with
  | some name => name
  | none => s!"<missing {id.text}>"

def edgeLine (g : Graph) (e : Edge) : String :=
  endName g e.source ++ " --" ++ e.kind.label ++ "--> " ++ endName g e.target

def countsPanel (g : Graph) : Panel :=
  Kind.all.foldl (fun p k =>
    p.add (Text.padRight 14 k.title ++ " " ++ Text.padLeft 3 (toString (g.count k))))
    (Panel.titled "Nodes" .info)

def relationships (g : Graph) (look : Look) : String :=
  match g.edges with
  | [] => Text.unlines [Icon.pending.render look ++ " " ++ paint look.ink .dim "No relationships."]
  | es =>
    (es.foldl (fun p e => p.add (edgeLine g e))
      (Panel.titled s!"Relationships ({es.length})" .info)).render look

def inspection (snapshot : String) (g : Graph) (look : Look) : String :=
  let header : Header := ⟨.inspect, "archlab inspect",
    [("Snapshot", snapshot), ("Graph", s!"{g.heading.name} (v{g.heading.version})")]⟩
  header.render look ++ "\n" ++ (countsPanel g).render look ++ "\n" ++ relationships g look

end Blueprint.Terminal
