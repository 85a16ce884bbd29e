import TileQuest.Adjust
import TileQuest.Blueprint
import TileQuest.Inspect
import TileQuest.Proofs.Animations
import TileQuest.Proofs.Chat.Copies
import TileQuest.Proofs.Editor.Clutter
import TileQuest.Proofs.Editor.Doubles
import TileQuest.Proofs.Editor.Keystrokes
import TileQuest.Proofs.Effects
import TileQuest.Proofs.Forest
import TileQuest.Proofs.Ground.Painting
import TileQuest.Proofs.Ground.Rectangles
import TileQuest.Proofs.Ground.View
import TileQuest.Proofs.Items.Gathering
import TileQuest.Proofs.Maps.Breakages
import TileQuest.Proofs.Maps.Reports
import TileQuest.Proofs.Maps.Resaving
import TileQuest.Proofs.Play.Departures
import TileQuest.Proofs.Play.Phases
import TileQuest.Proofs.Talk.Circles
import TileQuest.Proofs.Talk.Influence
import TileQuest.Proofs.Talk.Stepping
import TileQuest.Proofs.Text.Limits
import TileQuest.Tile.Draft
import TileQuest.Proofs.Bodies.Moving
