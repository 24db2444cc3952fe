import BlogApi.Database.World
import BlogApi.Database.Segment
import BlogApi.Database.Race
import BlogApi.Database.Cause
import BlogApi.Database.Serial
import BlogApi.Database.Lifecycle
import BlogApi.Routers.Except
import BlogApi.Routers.Author
import BlogApi.Routers.Routes
import BlogApi.Models
