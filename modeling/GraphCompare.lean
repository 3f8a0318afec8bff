import GraphCompare.Overlay.Caption
import GraphCompare.Screen.Json
import GraphCompare.Window.Input
import GraphCompare.Proofs.Graph.Distance
import GraphCompare.Proofs.Graph.Editing
import GraphCompare.Proofs.Overlay.Queries
import GraphCompare.Proofs.Pointer.Gestures
import GraphCompare.Proofs.Window.Reaction
import GraphCompare.Proofs.Workspace.Announcing
import GraphCompare.Proofs.Event.Subscribing
import GraphCompare.Proofs.Window.Declining
import GraphCompare.Proofs.Window.Repainting
import GraphCompare.Proofs.Window.Fitting
import GraphCompare.Proofs.Workspace.Strict
import GraphCompare.Proofs.Comparison.Restoring
import GraphCompare.Proofs.Window.Clicking
import GraphCompare.Proofs.Workspace.Configuring
import GraphCompare.Proofs.Workspace.Sparing
import GraphCompare.Proofs.Workspace.Tallying
import GraphCompare.Proofs.Settings.Overriding
import GraphCompare.Proofs.Layer.Writing
import GraphCompare.Proofs.Pointer.Target
import GraphCompare.Proofs.Selection
import GraphCompare.Proofs.Address
import GraphCompare.Proofs.Graph.Neighbors
import GraphCompare.Proofs.Window.Adopting
import GraphCompare.Proofs.Window.Leading
